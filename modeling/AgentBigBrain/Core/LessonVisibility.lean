import AgentBigBrain.Core.LessonIndex
import AgentBigBrain.Lib.Views

/-!
# Hidden lessons

A retrieval returns visible lessons only. The two searches behind it go over all lessons, so a
hidden lesson may still show in it: it may be all that is found, raise the greatest keyword score,
or push a visible lesson out of the nearest embeddings. Where the hidden lessons do none of this
they leave no trace.
-/
namespace AgentBigBrain.Core

open AgentBigBrain.Js AgentBigBrain.Lib

variable {platform : Platform} {hostSort : HostSort} {memory other : SemanticMemory}
  {query : LessonQuery} {hits : LessonHits}

/-! ## What a principal sees of a store -/

/-- The lesson is visible to the principal of the query. -/
def LessonQuery.sees (query : LessonQuery) (lesson : SemanticLesson) : Bool :=
  isSemanticLessonVisibleForRetrieval lesson query.accessOptions

def visibleLessons (memory : SemanticMemory) (query : LessonQuery) : List SemanticLesson :=
  memory.lessons.filter query.sees

/-- The id is that of a visible lesson. -/
def seesId (memory : SemanticMemory) (query : LessonQuery) (id : String) : Bool :=
  (visibleLessons memory query).any (·.id = id)

/-- The visible lessons under a concept of the index. -/
def visiblePosting (memory : SemanticMemory) (query : LessonQuery) (concept : String) :
    List String :=
  ((memory.conceptIndex concept).getD []).filter (seesId memory query)

/-- The embeddings of the visible lessons. -/
def visibleRows (memory : SemanticMemory) (query : LessonQuery)
    (rows : List VectorSearchResult) : List VectorSearchResult :=
  rows.filter fun row => seesId memory query row.lessonId

/-- The two stores hold the same visible lessons, with the same index entries and embeddings. -/
structure SameVisibleLessons (memory other : SemanticMemory) (query : LessonQuery)
    (rows otherRows : List VectorSearchResult) : Prop where
  lessons : visibleLessons memory query = visibleLessons other query
  postings : ∀ concept, visiblePosting memory query concept = visiblePosting other query concept
  /-- No inherited member is listed as a concept in one of them only. -/
  inherited : ∀ concept ∈ objectPrototypeMembers,
    (memory.conceptIndex concept).isSome = (other.conceptIndex concept).isSome
  embeddings : visibleRows memory query rows = visibleRows other query otherRows

/-- No hidden lesson has the id of a visible one. -/
def UnshadowedLessons (memory : SemanticMemory) (query : LessonQuery) : Prop :=
  Lib.Unshadowed query.sees (·.id) memory.lessons

def LessonHits.restrict (hits : LessonHits) (seen : String → Bool) : LessonHits where
  keyword := hits.keyword.filter seen
  vector := hits.vector.filter fun row => seen row.lessonId

/-- The hidden lessons do not tell in a query that finds `hits`. -/
structure HiddenInert (memory : SemanticMemory) (query : LessonQuery)
    (rows : List VectorSearchResult) (hits : LessonHits) : Prop where
  /-- They are not all that is found. -/
  found : hits.allCandidateIds ≠ [] →
    (hits.restrict (seesId memory query)).allCandidateIds ≠ []
  /-- A visible lesson has the greatest keyword score. -/
  greatest : hits.maxKeywordScore = (hits.restrict (seesId memory query)).maxKeywordScore
  /-- The nearest embeddings include the nearest visible ones. -/
  nearest : (hits.restrict (seesId memory query)).vector =
    searchVectors (visibleRows memory query rows) (query.limit * 3)

variable (platform) in
/-- What the two searches of a query with concepts find. -/
def lessonHits (memory : SemanticMemory) (query : LessonQuery) (rows : List VectorSearchResult) :
    Option LessonHits :=
  (keywordHits memory.conceptIndex (extractConcepts platform query.query)).map fun keyword =>
    { keyword := keyword, vector := searchVectors rows (query.limit * 3) }

variable (platform) in
/-- The hidden lessons do not tell in the query, which matters where it has concepts. -/
def InertFor (memory : SemanticMemory) (query : LessonQuery) (rows : List VectorSearchResult) :
    Prop :=
  extractConcepts platform query.query ≠ [] →
    ∀ hits ∈ lessonHits platform memory query rows, HiddenInert memory query rows hits

/-! ## Lookups -/

lemma seesId_iff {id : String} :
    seesId memory query id = true ↔
      ∃ lesson ∈ memory.lessons, query.sees lesson = true ∧ lesson.id = id := by
  simp only [seesId, visibleLessons, List.any_eq_true, List.mem_filter, decide_eq_true_eq,
    and_assoc]

lemma lessonById_mem {lessons : List SemanticLesson} {id : String} {lesson : SemanticLesson}
    (h : lessonById lessons id = some lesson) : lesson ∈ lessons ∧ lesson.id = id := by
  refine ⟨List.mem_reverse.mp (List.mem_of_find?_eq_some h), ?_⟩
  simpa using List.find?_some h

lemma lessonById_visible (h : UnshadowedLessons memory query) {id : String}
    (hid : seesId memory query id = true) :
    lessonById memory.lessons id = lessonById (visibleLessons memory query) id := by
  obtain ⟨lesson, hlesson, hseen, rfl⟩ := seesId_iff.mp hid
  exact h.find?_reverse hlesson hseen

/-- The store without its index and its hidden lessons. -/
def visibleOnly (memory : SemanticMemory) (query : LessonQuery) : SemanticMemory where
  lessons := visibleLessons memory query
  conceptIndex _ := none

lemma candidates_visibleOnly :
    query.candidates (visibleOnly memory query) = query.candidates memory := by
  simp only [LessonQuery.candidates, visibleOnly, visibleLessons, LessonQuery.sees,
    List.filter_filter]
  refine List.filter_congr fun lesson _ => ?_
  cases isSemanticLessonVisibleForRetrieval lesson query.accessOptions <;> simp

lemma seesId_of_candidate {id : String} (h : id ∈ (query.candidates memory).map (·.id)) :
    seesId memory query id = true := by
  obtain ⟨lesson, hlesson, rfl⟩ := List.mem_map.mp h
  obtain ⟨hmem, hseen⟩ := List.mem_filter.mp hlesson
  simp only [Bool.and_eq_true] at hseen
  exact seesId_iff.mpr ⟨lesson, hmem, hseen.1, rfl⟩

/-! ## Hits of visible lessons -/

section Restrict

variable {seen : String → Bool} {id : String}

lemma allCandidateIds_restrict :
    (hits.restrict seen).allCandidateIds = hits.allCandidateIds.filter seen := by
  simp only [LessonHits.allCandidateIds, LessonHits.restrict, filter_uniqueValues,
    List.filter_append, List.filter_map]
  rfl

lemma keywordScore_restrict (hid : seen id = true) :
    (hits.restrict seen).keywordScore id = hits.keywordScore id :=
  List.count_filter hid

lemma vectorScore_restrict (hid : seen id = true) :
    (hits.restrict seen).vectorScore id = hits.vectorScore id := by
  have hfind : (hits.restrict seen).vector.reverse.find? (·.lessonId = id) =
      hits.vector.reverse.find? (·.lessonId = id) := by
    rw [LessonHits.restrict, ← List.filter_reverse, List.find?_filter]
    refine List.find?_congr fun row _ => ?_
    by_cases hrow : row.lessonId = id
    · simp [hrow, hid]
    · simp [hrow]
  rw [LessonHits.vectorScore, hfind, LessonHits.vectorScore]

lemma blendedScore_restrict (hid : seen id = true)
    (hgreatest : hits.maxKeywordScore = (hits.restrict seen).maxKeywordScore)
    (lane : Option ConversationDomainLane) (lesson : SemanticLesson) :
    blendedScore (hits.restrict seen) lane lesson id = blendedScore hits lane lesson id := by
  rw [blendedScore, blendedScore, keywordScore_restrict hid, vectorScore_restrict hid, hgreatest]

end Restrict

lemma hybridScored_visible (h : UnshadowedLessons memory query)
    (hgreatest : hits.maxKeywordScore =
      (hits.restrict (seesId memory query)).maxKeywordScore) :
    hybridScored memory query hits =
      hybridScored (visibleOnly memory query) query (hits.restrict (seesId memory query)) := by
  rw [hybridScored, hybridScored, allCandidateIds_restrict, List.filterMap_filter]
  refine List.filterMap_congr fun id _ => ?_
  rw [candidates_visibleOnly]
  by_cases hid : id ∈ (query.candidates memory).map (·.id)
  · have hseen := seesId_of_candidate hid
    rw [if_pos hid, if_pos hseen, if_pos hid, lessonById_visible h hseen]
    exact congrArg (fun score => (lessonById _ id).map score)
      (funext fun lesson => by rw [blendedScore_restrict hseen hgreatest])
  · rw [if_neg hid, if_neg hid, ite_self]

lemma seesId_of_scored {scored : String × ℚ} (h : scored ∈ hybridScored memory query hits) :
    seesId memory query scored.1 = true := by
  obtain ⟨id, -, hscored⟩ := List.mem_filterMap.mp h
  split_ifs at hscored with hid
  obtain ⟨lesson, -, rfl⟩ := Option.map_eq_some_iff.mp hscored
  exact seesId_of_candidate hid

/-! ## The ranked lessons -/

variable (platform hostSort) in
/-- What a query with concepts returns. -/
def rankedLessons (memory : SemanticMemory) (query : LessonQuery) (hits : LessonHits) :
    List SemanticLesson :=
  if hits.allCandidateIds = [] then sliceFrom (-query.limit) (query.candidates memory)
  else
    (sliceTo query.limit (hostSort.sort (scoreOrder platform memory.lessons)
      (hybridScored memory query hits))).filterMap fun scored =>
        lessonById memory.lessons scored.1

lemma getRelevantLessons_eq (rows : List VectorSearchResult)
    (hconcepts : extractConcepts platform query.query ≠ []) :
    getRelevantLessons platform hostSort memory query rows =
      (lessonHits platform memory query rows).map
        (rankedLessons platform hostSort memory query) := by
  unfold getRelevantLessons lessonHits
  dsimp only
  split
  · contradiction
  · rw [Option.map_map]
    rfl

lemma mem_of_mem_sliceTo {α : Type*} {stop : ℤ} {xs : List α} {x : α} (h : x ∈ sliceTo stop xs) :
    x ∈ xs :=
  List.mem_of_mem_take h

lemma mem_of_mem_sliceFrom {α : Type*} {start : ℤ} {xs : List α} {x : α}
    (h : x ∈ sliceFrom start xs) : x ∈ xs :=
  List.mem_of_mem_drop h

/-- Hidden lessons that do not tell in a query may as well not be there. -/
lemma rankedLessons_visible (hsort : hostSort.AsksElements) (h : UnshadowedLessons memory query)
    {rows : List VectorSearchResult} (hinert : HiddenInert memory query rows hits) :
    rankedLessons platform hostSort memory query hits =
      rankedLessons platform hostSort (visibleOnly memory query) query
        (hits.restrict (seesId memory query)) := by
  have hfound : hits.allCandidateIds = [] ↔
      (hits.restrict (seesId memory query)).allCandidateIds = [] := by
    constructor
    · intro hnone
      rw [allCandidateIds_restrict, hnone, List.filter_nil]
    · intro hnone
      by_contra hsome
      exact hinert.found hsome hnone
  have hsorted : hostSort.sort (scoreOrder platform memory.lessons)
      (hybridScored memory query hits) =
        hostSort.sort (scoreOrder platform (visibleLessons memory query))
          (hybridScored memory query hits) := by
    refine hsort _ _ _ fun left hleft right hright => ?_
    rw [scoreOrder, scoreOrder, lessonById_visible h (seesId_of_scored hleft),
      lessonById_visible h (seesId_of_scored hright)]
  unfold rankedLessons
  rw [candidates_visibleOnly, ← hybridScored_visible h hinert.greatest, hsorted]
  simp only [hfound]
  split_ifs
  · rfl
  · refine List.filterMap_congr fun scored hscored => ?_
    exact lessonById_visible h
      (seesId_of_scored (hostSort.mem_sort.mp (mem_of_mem_sliceTo hscored)))

/-! ## Two stores -/

lemma sees_of_mem_ranked (h : UnshadowedLessons memory query) {lesson : SemanticLesson}
    (hlesson : lesson ∈ rankedLessons platform hostSort memory query hits) :
    query.sees lesson = true := by
  unfold rankedLessons at hlesson
  split_ifs at hlesson
  · have hcandidate := mem_of_mem_sliceFrom hlesson
    simp only [LessonQuery.candidates, List.mem_filter, Bool.and_eq_true] at hcandidate
    exact hcandidate.2.1
  · obtain ⟨scored, hscored, hfound⟩ := List.mem_filterMap.mp hlesson
    have hseen := seesId_of_scored (hostSort.mem_sort.mp (mem_of_mem_sliceTo hscored))
    rw [lessonById_visible h hseen] at hfound
    exact (List.mem_filter.mp (lessonById_mem hfound).1).2

lemma sees_of_mem_relevant (h : UnshadowedLessons memory query) {rows : List VectorSearchResult}
    {lessons : List SemanticLesson}
    (hlessons : getRelevantLessons platform hostSort memory query rows = some lessons)
    {lesson : SemanticLesson} (hlesson : lesson ∈ lessons) : query.sees lesson = true := by
  by_cases hconcepts : extractConcepts platform query.query = []
  · simp only [getRelevantLessons, hconcepts, Option.some.injEq] at hlessons
    subst hlessons
    have hcandidate := hostSort.mem_sort.mp (mem_of_mem_sliceTo hlesson)
    simp only [LessonQuery.candidates, List.mem_filter, Bool.and_eq_true] at hcandidate
    exact hcandidate.2.1
  · rw [getRelevantLessons_eq rows hconcepts] at hlessons
    obtain ⟨hits, -, rfl⟩ := Option.map_eq_some_iff.mp hlessons
    exact sees_of_mem_ranked h hlesson

/-- A search throws at an inherited member that is no entry of the index. -/
lemma keywordHits_cons (index : ConceptIndex) (concept : String) (concepts : List String) :
    keywordHits index (concept :: concepts) =
      if concept ∈ objectPrototypeMembers ∧ (index concept).isSome = false then none
      else (keywordHits index concepts).map ((index concept).getD [] ++ ·) := by
  rw [keywordHits, readIndex]
  cases hentry : index concept with
  | some lessonIds => simp
  | none =>
      by_cases hinherited : concept ∈ objectPrototypeMembers
      · simp [hinherited]
      · simp [hinherited]

section SameVisible

variable {rows otherRows : List VectorSearchResult}
  (hsame : SameVisibleLessons memory other query rows otherRows)

include hsame

lemma SameVisibleLessons.seesId_eq : seesId memory query = seesId other query := by
  funext id
  rw [seesId, seesId, hsame.lessons]

lemma SameVisibleLessons.visibleOnly_eq : visibleOnly memory query = visibleOnly other query := by
  rw [visibleOnly, visibleOnly, hsame.lessons]

lemma SameVisibleLessons.candidates_eq : query.candidates memory = query.candidates other := by
  rw [← candidates_visibleOnly, hsame.visibleOnly_eq, candidates_visibleOnly]

/-- Both searches of the index throw, or find the same visible lessons. -/
lemma SameVisibleLessons.keywordHits_eq (concepts : List String) :
    (keywordHits memory.conceptIndex concepts).map (·.filter (seesId memory query)) =
      (keywordHits other.conceptIndex concepts).map (·.filter (seesId memory query)) := by
  induction concepts with
  | nil => rfl
  | cons concept concepts ih =>
      have hthrows : (concept ∈ objectPrototypeMembers ∧
          (memory.conceptIndex concept).isSome = false) ↔
            (concept ∈ objectPrototypeMembers ∧ (other.conceptIndex concept).isSome = false) :=
        and_congr_right fun hinherited => by rw [hsame.inherited concept hinherited]
      have hposting : ((memory.conceptIndex concept).getD []).filter (seesId memory query) =
          ((other.conceptIndex concept).getD []).filter (seesId memory query) := by
        have hboth := hsame.postings concept
        rwa [visiblePosting, visiblePosting, ← hsame.seesId_eq] at hboth
      rw [keywordHits_cons, keywordHits_cons]
      simp only [hthrows]
      split_ifs
      · rfl
      · have happend : ∀ index : ConceptIndex,
            ((keywordHits index concepts).map ((index concept).getD [] ++ ·)).map
                (·.filter (seesId memory query)) =
              ((keywordHits index concepts).map (·.filter (seesId memory query))).map
                (((index concept).getD []).filter (seesId memory query) ++ ·) := by
          intro index
          simp only [Option.map_map, Function.comp_def, List.filter_append]
        rw [happend, happend, ih, hposting]

end SameVisible

/-- What a query with concepts returns depends on what is seen alone, where the hidden lessons do
not tell. -/
lemma getRelevantLessons_visible (hsort : hostSort.AsksElements)
    (h : UnshadowedLessons memory query) {rows : List VectorSearchResult}
    (hconcepts : extractConcepts platform query.query ≠ [])
    (hinert : InertFor platform memory query rows) :
    getRelevantLessons platform hostSort memory query rows =
      ((keywordHits memory.conceptIndex (extractConcepts platform query.query)).map
        (·.filter (seesId memory query))).map fun keyword =>
          rankedLessons platform hostSort (visibleOnly memory query) query
            { keyword := keyword
              vector := searchVectors (visibleRows memory query rows) (query.limit * 3) } := by
  rw [getRelevantLessons_eq rows hconcepts, lessonHits, Option.map_map, Option.map_map]
  refine Option.map_congr fun keyword hkeyword => ?_
  have hhits := hinert hconcepts
    { keyword := keyword, vector := searchVectors rows (query.limit * 3) }
    (Option.mem_map_of_mem _ hkeyword)
  simp only [Function.comp_apply]
  rw [rankedLessons_visible hsort h hhits, ← hhits.nearest]
  rfl

/-- The owner, as in a private task. -/
def lessonOwner : TaskPrincipalAccessEnvelope where
  actor := some (.obj [("principalRole", .str "owner")])
  route := some (.obj [("visibility", .str "private")])
  accessDecision :=
    { decisionId := "decision", requestId := "request", operation := "task_run",
      accessClass := "owner_private", allowed := true, reason := "owner" }

/-- A lesson that the owner's task commits. -/
def ownerAppendOf (text newId : String) : LessonEvent :=
  .append { lessonOf text with principalAccess := some lessonOwner }
    { newId := newId, nowIso := "2026-01-01T00:00:00.000Z" }

/-- A query without a principal. -/
def plainQuery (text : String) : LessonQuery where
  query := text
  limit := 6
  memoryType := none
  sessionDomainLane := none
  accessOptions := none

def plainLesson : SemanticLesson :=
  buildLesson lessonPlatform (lessonOf "deploy scripts")
    { newId := "lesson_1", nowIso := "2026-01-01T00:00:00.000Z" }

def ownerLesson : SemanticLesson :=
  buildLesson lessonPlatform { lessonOf "budget numbers" with principalAccess := some lessonOwner }
    { newId := "lesson_2", nowIso := "2026-01-01T00:00:00.000Z" }

def plainIndex (concept : String) : Option (List String) :=
  if concept ∈ plainLesson.concepts then some ["lesson_1"] else none

def plainMemory : SemanticMemory where
  lessons := [plainLesson]
  conceptIndex := plainIndex

def ownerMemory : SemanticMemory where
  lessons := [plainLesson, ownerLesson]
  conceptIndex concept :=
    if concept ∈ ownerLesson.concepts then some ["lesson_2"] else plainIndex concept

lemma searchVectors_nil (topK : ℤ) : searchVectors [] topK = [] :=
  List.take_nil

/-- A query that finds one visible lesson by its concepts, in a store without embeddings. -/
lemma inertFor_of_one {id : String} (hseen : seesId memory query id = true)
    (hhits : keywordHits memory.conceptIndex (extractConcepts platform query.query) = some [id]) :
    InertFor platform memory query [] := by
  rintro - hits hmem
  rw [lessonHits, hhits, searchVectors_nil] at hmem
  obtain rfl := Option.some.inj hmem
  have hrestrict : LessonHits.restrict { keyword := [id], vector := [] } (seesId memory query) =
      { keyword := [id], vector := [] } := by
    simp [LessonHits.restrict, hseen]
  refine ⟨fun hfound => ?_, ?_, ?_⟩
  · rw [hrestrict]
    exact hfound
  · rw [hrestrict]
  · rw [hrestrict]
    exact (searchVectors_nil _).symm

end AgentBigBrain.Core
