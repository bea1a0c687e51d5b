import AgentBigBrain.Core.SemanticMemory
import AgentBigBrain.Lib.Runs

/-!
# The lesson index over runs

Lessons are appended and queries asked, each on the memory as it is read from the file. The index
stays exact and the links stay mutual as long as no concept names a member that every object
inherits and no lesson goes while a lesson that stays is linked with it.
-/
namespace AgentBigBrain.Core

open AgentBigBrain.Js AgentBigBrain.Lib

/-! ## Runs -/

inductive LessonEvent where
  | append (input : AppendLessonInput) (readings : LessonReadings)
  | ask (query : LessonQuery) (vectorRows : List VectorSearchResult)

/-- One call on the stored memory; there is no next memory where it throws. -/
def lessonStep (platform : Platform) (hostSort : HostSort) (memory : SemanticMemory) :
    LessonEvent → Option SemanticMemory
  | .append input readings =>
      match appendLesson platform (coerceLegacyMemory platform memory) input readings with
      | .threw => none
      | .skipped => some memory
      | .saved document => some document
  | .ask query vectorRows =>
      (getRelevantLessons platform hostSort (coerceLegacyMemory platform memory) query
        vectorRows).map fun _ => memory

/-- The lesson of this id is among the lessons and has the concept. -/
def HasConcept (lessons : List SemanticLesson) (id concept : String) : Prop :=
  ∃ lesson ∈ lessons, lesson.id = id ∧ concept ∈ lesson.concepts

/-- The related lessons of each lesson are retained, and it is among theirs. -/
def Mutual (lessons : List SemanticLesson) : Prop :=
  ∀ lesson ∈ lessons, ∀ id ∈ lesson.relatedLessonIds,
    ∃ other ∈ lessons, other.id = id ∧ lesson.id ∈ other.relatedLessonIds

structure ExactLessons (memory : SemanticMemory) : Prop where
  index : InvertedIndex.Exact memory.conceptIndex (HasConcept memory.lessons)
  related : Mutual memory.lessons

/-- No concept names an inherited member. -/
def OwnNames (concepts : List String) : Prop :=
  ∀ concept ∈ concepts, concept ∉ objectPrototypeMembers

instance (concepts : List String) : Decidable (OwnNames concepts) :=
  inferInstanceAs (Decidable (∀ concept ∈ concepts, _))

/-- The lesson that goes when there is no room is linked with none that stays. -/
def OldestUnlinked (memory : SemanticMemory) (lesson : SemanticLesson) : Prop :=
  MAX_LESSONS ≤ memory.lessons.length → ∀ oldest ∈ memory.lessons.head?,
    oldest.relatedLessonIds = [] ∧ linked oldest lesson = false

instance (memory : SemanticMemory) (lesson : SemanticLesson) :
    Decidable (OldestUnlinked memory lesson) :=
  inferInstanceAs (Decidable (_ → ∀ oldest ∈ memory.lessons.head?, _))

/-- The call keeps the index exact: it asks for or appends no concept that names an inherited
member, and evicts no linked lesson. -/
def KeepsExact (platform : Platform) (memory : SemanticMemory) : LessonEvent → Prop
  | .ask query _ => OwnNames (extractConcepts platform query.query)
  | .append input readings =>
      isPresent input.lessonText = false ∨
        hasLesson platform (coerceLegacyMemory platform memory) input = true ∨
        OwnNames (extractConcepts platform (trim input.lessonText)) ∧
          OldestUnlinked memory (buildLesson platform input readings)

instance (platform : Platform) (memory : SemanticMemory) :
    ∀ event, Decidable (KeepsExact platform memory event)
  | .ask query _ => inferInstanceAs (Decidable (OwnNames (extractConcepts platform query.query)))
  | .append _ _ => inferInstanceAs (Decidable (_ ∨ _ ∨ _ ∧ _))

/-- A new lesson gets an id that no retained lesson has. -/
def FreshLesson (memory : SemanticMemory) : LessonEvent → Prop
  | .ask _ _ => True
  | .append _ readings => ∀ lesson ∈ memory.lessons, lesson.id ≠ readings.newId

instance (memory : SemanticMemory) : ∀ event, Decidable (FreshLesson memory event)
  | .ask _ _ => .isTrue trivial
  | .append _ _ => inferInstanceAs (Decidable (∀ lesson ∈ memory.lessons, _))

/-! ## Reading and posting concepts -/

lemma readIndex_of_own {index : ConceptIndex} {concept : String}
    (h : concept ∉ objectPrototypeMembers) : readIndex index concept ≠ .inherited := by
  unfold readIndex
  split
  · simp
  · simp [h]

lemma readIndex_inherited {index : ConceptIndex} {concept : String} (hnone : index concept = none)
    (h : concept ∈ objectPrototypeMembers) : readIndex index concept = .inherited := by
  simp [readIndex, hnone, h]

lemma addConcept_of_own {index : ConceptIndex} {id concept : String}
    (h : concept ∉ objectPrototypeMembers) :
    addConcept id index concept = some (InvertedIndex.post index id concept) := by
  unfold addConcept
  have hread := @readIndex_of_own index _ h
  split
  · rename_i hinherited
    exact absurd hinherited hread
  · rfl
  · rfl

lemma foldlM_addConcept {id : String} {concepts : List String} (h : OwnNames concepts)
    (index : ConceptIndex) :
    concepts.foldlM (addConcept id) index = some (InvertedIndex.add index id concepts) := by
  induction concepts generalizing index with
  | nil => rfl
  | cons concept concepts ih =>
      rw [List.foldlM_cons, addConcept_of_own (h concept List.mem_cons_self)]
      exact ih (fun other hother => h other (List.mem_cons_of_mem _ hother)) _

/-- While the index has no entry of such a name, posting an inherited name throws. -/
lemma foldlM_addConcept_eq_none {id : String} {concepts : List String} (h : ¬ OwnNames concepts)
    {index : ConceptIndex} (hindex : ∀ name ∈ objectPrototypeMembers, index name = none) :
    concepts.foldlM (addConcept id) index = none := by
  induction concepts generalizing index with
  | nil => exact absurd (fun concept hconcept => by cases hconcept) h
  | cons concept concepts ih =>
      rw [List.foldlM_cons]
      by_cases hconcept : concept ∈ objectPrototypeMembers
      · simp [addConcept, readIndex_inherited (hindex concept hconcept) hconcept]
      · rw [addConcept_of_own hconcept]
        refine ih (fun hrest => h ?_) fun name hname => ?_
        · intro other hother
          rcases List.mem_cons.mp hother with rfl | hother
          · exact hconcept
          · exact hrest other hother
        · have hne : name ≠ concept := fun heq => hconcept (heq ▸ hname)
          rw [InvertedIndex.post, Function.update_of_ne hne]
          exact hindex name hname

lemma keywordHits_isSome {index : ConceptIndex} {concepts : List String} (h : OwnNames concepts) :
    (keywordHits index concepts).isSome := by
  induction concepts with
  | nil => rfl
  | cons concept concepts ih =>
      have hrest := ih fun other hother => h other (List.mem_cons_of_mem _ hother)
      have hread := @readIndex_of_own index _ (h concept List.mem_cons_self)
      unfold keywordHits
      split
      · rename_i hinherited
        exact absurd hinherited hread
      · exact hrest
      · simpa using hrest

lemma keywordHits_eq_none {index : ConceptIndex} {concepts : List String}
    (h : ¬ OwnNames concepts) (hindex : ∀ name ∈ objectPrototypeMembers, index name = none) :
    keywordHits index concepts = none := by
  induction concepts with
  | nil => exact absurd (fun concept hconcept => by cases hconcept) h
  | cons concept concepts ih =>
      by_cases hconcept : concept ∈ objectPrototypeMembers
      · simp [keywordHits, readIndex_inherited (hindex concept hconcept) hconcept]
      · have hrest : keywordHits index concepts = none := by
          refine ih fun hrest => h fun other hother => ?_
          rcases List.mem_cons.mp hother with rfl | hother
          · exact hconcept
          · exact hrest other hother
        have hread := @readIndex_of_own index _ hconcept
        unfold keywordHits
        split
        · rfl
        · exact hrest
        · rw [hrest]
          rfl

/-! ## Linking -/

lemma mem_relate {lesson : SemanticLesson} {id other : String} :
    other ∈ (lesson.relate id).relatedLessonIds ↔ other ∈ lesson.relatedLessonIds ∨ other = id :=
  InvertedIndex.mem_addOnce

/-- Linking changes nothing but the related lessons. -/
structure SameLesson (lesson other : SemanticLesson) : Prop where
  id : other.id = lesson.id
  text : other.text = lesson.text
  concepts : other.concepts = lesson.concepts

lemma SameLesson.refl (lesson : SemanticLesson) : SameLesson lesson lesson := ⟨rfl, rfl, rfl⟩

lemma sameLesson_relate (lesson : SemanticLesson) (id : String) :
    SameLesson lesson (lesson.relate id) := ⟨rfl, rfl, rfl⟩

lemma sameLesson_coerce (platform : Platform) (lesson : SemanticLesson) :
    SameLesson lesson (coerceLesson platform lesson) := ⟨rfl, rfl, rfl⟩

lemma hasConcept_map {change : SemanticLesson → SemanticLesson}
    (hsame : ∀ lesson, SameLesson lesson (change lesson)) {lessons : List SemanticLesson}
    {id concept : String} :
    HasConcept (lessons.map change) id concept ↔ HasConcept lessons id concept := by
  simp only [HasConcept, List.mem_map, exists_exists_and_eq_and, (hsame _).id, (hsame _).concepts]

lemma hasConcept_append {first second : List SemanticLesson} {id concept : String} :
    HasConcept (first ++ second) id concept ↔
      HasConcept first id concept ∨ HasConcept second id concept := by
  simp only [HasConcept, List.mem_append, or_and_right, exists_or]

lemma hasConcept_singleton {lesson : SemanticLesson} {id concept : String} :
    HasConcept [lesson] id concept ↔ lesson.id = id ∧ concept ∈ lesson.concepts := by
  simp [HasConcept]

lemma foldl_relate (existing : List SemanticLesson) (lesson : SemanticLesson) :
    let connected := existing.foldl (fun lesson other => lesson.relate other.id) lesson
    SameLesson lesson connected ∧ ∀ id, id ∈ connected.relatedLessonIds ↔
      id ∈ lesson.relatedLessonIds ∨ ∃ other ∈ existing, other.id = id := by
  induction existing generalizing lesson with
  | nil => exact ⟨.refl lesson, fun id => by simp⟩
  | cons first existing ih =>
      obtain ⟨hsame, hmem⟩ := ih (lesson.relate first.id)
      refine ⟨⟨hsame.id, hsame.text, hsame.concepts⟩, fun id => ?_⟩
      rw [List.foldl_cons, hmem id, mem_relate]
      simp only [List.mem_cons, exists_eq_or_imp]
      tauto

lemma connect_new (existing : List SemanticLesson) (lesson : SemanticLesson) :
    SameLesson lesson (connectLesson existing lesson).2 ∧
      ∀ id, id ∈ (connectLesson existing lesson).2.relatedLessonIds ↔
        id ∈ lesson.relatedLessonIds ∨
          ∃ other ∈ existing, linked other lesson = true ∧ other.id = id := by
  obtain ⟨hsame, hmem⟩ := foldl_relate (existing.filter (linked · lesson)) lesson
  refine ⟨hsame, fun id => (hmem id).trans (or_congr_right ?_)⟩
  simp only [List.mem_filter, and_assoc]

/-- An existing lesson after a new one was linked with it, or not. -/
def linkedTo (lesson existing : SemanticLesson) : SemanticLesson :=
  if linked existing lesson then existing.relate lesson.id else existing

lemma connect_existing (existing : List SemanticLesson) (lesson : SemanticLesson) :
    (connectLesson existing lesson).1 = existing.map (linkedTo lesson) := rfl

lemma sameLesson_linkedTo (lesson existing : SemanticLesson) :
    SameLesson existing (linkedTo lesson existing) := by
  unfold linkedTo
  split_ifs
  · exact sameLesson_relate existing lesson.id
  · exact .refl existing

lemma mem_linkedTo {lesson existing : SemanticLesson} {id : String} :
    id ∈ (linkedTo lesson existing).relatedLessonIds ↔ id ∈ existing.relatedLessonIds ∨
      linked existing lesson = true ∧ id = lesson.id := by
  unfold linkedTo
  split_ifs with hlinked
  · simp [mem_relate, hlinked]
  · simp [hlinked]

/-- A lesson that is new is linked both ways. -/
lemma mutual_connect {existing : List SemanticLesson} {lesson : SemanticLesson}
    (h : Mutual existing) (hnew : lesson.relatedLessonIds = []) :
    Mutual ((connectLesson existing lesson).1 ++ [(connectLesson existing lesson).2]) := by
  obtain ⟨hsame, hmem⟩ := connect_new existing lesson
  simp only [hnew, List.not_mem_nil, false_or] at hmem
  rw [connect_existing]
  intro kept hkept id hid
  rcases List.mem_append.mp hkept with hmapped | hlast
  · obtain ⟨old, hold, rfl⟩ := List.mem_map.mp hmapped
    rcases mem_linkedTo.mp hid with hid | ⟨hlinked, rfl⟩
    · obtain ⟨other, hother, rfl, hback⟩ := h old hold id hid
      refine ⟨linkedTo lesson other,
        List.mem_append_left _ (List.mem_map_of_mem hother), (sameLesson_linkedTo _ _).id, ?_⟩
      rw [(sameLesson_linkedTo lesson old).id]
      exact mem_linkedTo.mpr (.inl hback)
    · refine ⟨_, List.mem_append_right _ (List.mem_singleton.mpr rfl), hsame.id, ?_⟩
      rw [(sameLesson_linkedTo lesson old).id]
      exact (hmem old.id).mpr ⟨old, hold, hlinked, rfl⟩
  · obtain rfl := List.mem_singleton.mp hlast
    obtain ⟨old, hold, hlinked, rfl⟩ := (hmem id).mp hid
    refine ⟨linkedTo lesson old, List.mem_append_left _ (List.mem_map_of_mem hold),
      (sameLesson_linkedTo _ _).id, ?_⟩
    rw [hsame.id]
    exact mem_linkedTo.mpr (.inr ⟨hlinked, rfl⟩)

/-! ## Evicting -/

lemma mutual_tail {oldest : SemanticLesson} {rest : List SemanticLesson}
    (h : Mutual (oldest :: rest)) (hids : ((oldest :: rest).map (·.id)).Nodup)
    (hunlinked : oldest.relatedLessonIds = []) : Mutual rest := by
  intro lesson hlesson id hid
  obtain ⟨other, hother, rfl, hback⟩ := h lesson (List.mem_cons_of_mem _ hlesson) id hid
  rcases List.mem_cons.mp hother with rfl | hother
  · rw [hunlinked] at hback
    cases hback
  · exact ⟨other, hother, rfl, hback⟩

/-- A lesson that goes while it is linked leaves its id behind. -/
lemma not_mutual_tail {oldest : SemanticLesson} {rest : List SemanticLesson}
    (h : Mutual (oldest :: rest)) (hids : ((oldest :: rest).map (·.id)).Nodup)
    (hapart : oldest.id ∉ oldest.relatedLessonIds) (hlinked : oldest.relatedLessonIds ≠ []) :
    ¬ Mutual rest := by
  obtain ⟨id, hid⟩ := List.exists_mem_of_ne_nil _ hlinked
  obtain ⟨other, hother, rfl, hback⟩ := h oldest List.mem_cons_self id hid
  rcases List.mem_cons.mp hother with rfl | hother
  · exact absurd hid hapart
  · intro hrest
    obtain ⟨again, hagain, hsame, -⟩ := hrest other hother oldest.id hback
    have hnew : oldest.id ∉ rest.map (·.id) := (List.nodup_cons.mp hids).1
    exact hnew (hsame ▸ List.mem_map_of_mem hagain)

lemma exact_tail {oldest : SemanticLesson} {rest : List SemanticLesson} {index : ConceptIndex}
    (h : InvertedIndex.Exact index (HasConcept (oldest :: rest)))
    (hids : ((oldest :: rest).map (·.id)).Nodup) :
    InvertedIndex.Exact (removeFromConceptIndex index oldest.id) (HasConcept rest) := by
  have hnew : oldest.id ∉ rest.map (·.id) := (List.nodup_cons.mp hids).1
  refine (h.remove oldest.id).congr fun id concept => ?_
  simp only [HasConcept, List.mem_cons, exists_eq_or_imp]
  constructor
  · rintro ⟨⟨hid, -⟩ | hrest, hne⟩
    · exact absurd hid.symm hne
    · exact hrest
  · rintro ⟨lesson, hlesson, rfl, hconcept⟩
    refine ⟨.inr ⟨lesson, hlesson, rfl, hconcept⟩, fun heq => hnew ?_⟩
    exact heq ▸ List.mem_map_of_mem hlesson

/-! ## The invariant -/

/-- What every call keeps that meets its condition. -/
structure LessonsKept (memory : SemanticMemory) : Prop where
  exact : ExactLessons memory
  ids : (memory.lessons.map (·.id)).Nodup
  own : ∀ lesson ∈ memory.lessons, OwnNames lesson.concepts
  apart : ∀ lesson ∈ memory.lessons, lesson.id ∉ lesson.relatedLessonIds
  present : ∀ lesson ∈ memory.lessons, isPresent lesson.text = true
  few : memory.lessons.length ≤ MAX_LESSONS

lemma lessonsKept_empty : LessonsKept .empty where
  exact :=
    { index := InvertedIndex.exact_empty.congr fun id concept => by
        simp [HasConcept, SemanticMemory.empty]
      related := fun lesson hlesson => by cases hlesson }
  ids := List.nodup_nil
  own lesson hlesson := by cases hlesson
  apart lesson hlesson := by cases hlesson
  present lesson hlesson := by cases hlesson
  few := Nat.zero_le _

/-- The index has no entry under the name of an inherited member. -/
lemma LessonsKept.no_inherited {memory : SemanticMemory} (h : LessonsKept memory) :
    ∀ name ∈ objectPrototypeMembers, memory.conceptIndex name = none := by
  intro name hname
  cases hentry : memory.conceptIndex name with
  | none => rfl
  | some ids =>
      obtain _ | ⟨id, ids⟩ := ids
      · exact absurd hentry (h.exact.index.nonempty name)
      · have hposted : id ∈ InvertedIndex.posted memory.conceptIndex name := by
          rw [InvertedIndex.posted_of_eq hentry]
          exact List.mem_cons_self
        obtain ⟨lesson, hlesson, -, hconcept⟩ := (h.exact.index.mem name id).mp hposted
        exact absurd hname (h.own lesson hlesson name hconcept)

/-- A change of the lessons that keeps ids, texts, concepts and related lessons. -/
lemma LessonsKept.map {memory : SemanticMemory} (h : LessonsKept memory)
    {change : SemanticLesson → SemanticLesson} (hsame : ∀ lesson, SameLesson lesson (change lesson))
    (hrelated : ∀ lesson, (change lesson).relatedLessonIds = lesson.relatedLessonIds) :
    LessonsKept { memory with lessons := memory.lessons.map change } := by
  have hids : (memory.lessons.map change).map (·.id) = memory.lessons.map (·.id) := by
    rw [List.map_map]
    exact List.map_congr_left fun lesson _ => (hsame lesson).id
  have hof : ∀ {property : SemanticLesson → Prop},
      (∀ lesson ∈ memory.lessons, property (change lesson)) →
        ∀ lesson ∈ memory.lessons.map change, property lesson := by
    intro property hproperty lesson hlesson
    obtain ⟨old, hold, rfl⟩ := List.mem_map.mp hlesson
    exact hproperty old hold
  refine ⟨⟨h.exact.index.congr fun id concept => ?_, hof fun lesson hlesson id hid => ?_⟩, ?_,
    hof fun lesson hlesson => ?_, hof fun lesson hlesson => ?_, hof fun lesson hlesson => ?_, ?_⟩
  · exact (hasConcept_map hsame).symm
  · rw [hrelated] at hid
    obtain ⟨other, hother, rfl, hback⟩ := h.exact.related lesson hlesson id hid
    refine ⟨change other, List.mem_map_of_mem hother, (hsame other).id, ?_⟩
    rw [hrelated, (hsame lesson).id]
    exact hback
  · rw [hids]
    exact h.ids
  · rw [(hsame lesson).concepts]
    exact h.own lesson hlesson
  · rw [(hsame lesson).id, hrelated]
    exact h.apart lesson hlesson
  · rw [(hsame lesson).text]
    exact h.present lesson hlesson
  · rw [List.length_map]
    exact h.few

variable {platform : Platform} {hostSort : HostSort} {memory : SemanticMemory}

lemma LessonsKept.lessons_coerce (h : LessonsKept memory) :
    (coerceLegacyMemory platform memory).lessons = memory.lessons.map (coerceLesson platform) := by
  refine List.filter_eq_self.mpr fun lesson hlesson => ?_
  obtain ⟨old, hold, rfl⟩ := List.mem_map.mp hlesson
  exact h.present old hold

lemma LessonsKept.coerce (h : LessonsKept memory) :
    LessonsKept (coerceLegacyMemory platform memory) := by
  have hmap := h.map (sameLesson_coerce platform) fun _ => rfl
  rw [← h.lessons_coerce] at hmap
  exact hmap

/-! ## One lesson more -/

variable {input : AppendLessonInput} {readings : LessonReadings}

/-- The memory with the new lesson in it, before any lesson goes. -/
def withLesson (memory : SemanticMemory) (lesson : SemanticLesson) : SemanticMemory where
  lessons := (connectLesson memory.lessons lesson).1 ++ [(connectLesson memory.lessons lesson).2]
  conceptIndex := InvertedIndex.add memory.conceptIndex lesson.id lesson.concepts

lemma appendLesson_cases (platform : Platform) (memory : SemanticMemory)
    (input : AppendLessonInput) (readings : LessonReadings) :
    (isPresent input.lessonText = false ∨ hasLesson platform memory input = true) ∧
        appendLesson platform memory input readings = .skipped ∨
      isPresent input.lessonText = true ∧ hasLesson platform memory input = false ∧
        appendLesson platform memory input readings =
          match addToConceptIndex memory.conceptIndex (connectLesson memory.lessons
            (buildLesson platform input readings)).2 with
          | none => .threw
          | some conceptIndex => .saved (evictLessons
              { lessons := (connectLesson memory.lessons (buildLesson platform input readings)).1 ++
                  [(connectLesson memory.lessons (buildLesson platform input readings)).2]
                conceptIndex := conceptIndex }) := by
  unfold appendLesson
  split_ifs with hblank hknown
  · exact .inl ⟨.inl hblank, rfl⟩
  · exact .inl ⟨.inr hknown, rfl⟩
  · exact .inr ⟨by simpa using hblank, by simpa using hknown, rfl⟩

lemma addToConceptIndex_connected {lesson : SemanticLesson} (h : OwnNames lesson.concepts)
    (index : ConceptIndex) (existing : List SemanticLesson) :
    addToConceptIndex index (connectLesson existing lesson).2 =
      some (InvertedIndex.add index lesson.id lesson.concepts) := by
  obtain ⟨hsame, -⟩ := connect_new existing lesson
  rw [addToConceptIndex, hsame.id, hsame.concepts]
  exact foldlM_addConcept h index

/-- With room for it, the new lesson is in the index and linked both ways. -/
lemma LessonsKept.withLesson (h : LessonsKept memory) {lesson : SemanticLesson}
    (hown : OwnNames lesson.concepts) (hpresent : isPresent lesson.text = true)
    (hnew : lesson.relatedLessonIds = []) (hfresh : ∀ old ∈ memory.lessons, old.id ≠ lesson.id) :
    ExactLessons (withLesson memory lesson) ∧
      ((withLesson memory lesson).lessons.map (·.id)).Nodup ∧
      (∀ kept ∈ (withLesson memory lesson).lessons, OwnNames kept.concepts ∧
        kept.id ∉ kept.relatedLessonIds ∧ isPresent kept.text = true) := by
  obtain ⟨hsame, hmem⟩ := connect_new memory.lessons lesson
  simp only [hnew, List.not_mem_nil, false_or] at hmem
  have hlessons : (AgentBigBrain.Core.withLesson memory lesson).lessons =
      memory.lessons.map (linkedTo lesson) ++ [(connectLesson memory.lessons lesson).2] := rfl
  have hids : (memory.lessons.map (linkedTo lesson)).map (·.id) = memory.lessons.map (·.id) := by
    rw [List.map_map]
    exact List.map_congr_left fun old _ => (sameLesson_linkedTo lesson old).id
  refine ⟨⟨(h.exact.index.add lesson.id lesson.concepts).congr fun id concept => ?_,
    mutual_connect h.exact.related hnew⟩, ?_, ?_⟩
  · rw [hlessons, hasConcept_append, hasConcept_map (sameLesson_linkedTo lesson),
      hasConcept_singleton, hsame.id, hsame.concepts, eq_comm]
  · rw [hlessons, List.map_append, hids, List.map_singleton, hsame.id]
    refine h.ids.append (List.nodup_singleton _) ?_
    simpa using fun old hold => hfresh old hold
  · rw [hlessons]
    intro kept hkept
    rcases List.mem_append.mp hkept with hmapped | hlast
    · obtain ⟨old, hold, rfl⟩ := List.mem_map.mp hmapped
      have hold' := sameLesson_linkedTo lesson old
      rw [hold'.concepts, hold'.id, hold'.text, mem_linkedTo]
      refine ⟨h.own old hold, ?_, h.present old hold⟩
      rintro (hself | ⟨-, hid⟩)
      · exact h.apart old hold hself
      · exact hfresh old hold hid
    · obtain rfl := List.mem_singleton.mp hlast
      rw [hsame.concepts, hsame.id, hsame.text, hmem]
      refine ⟨hown, ?_, hpresent⟩
      rintro ⟨old, hold, -, hid⟩
      exact hfresh old hold hid

lemma length_withLesson (memory : SemanticMemory) (lesson : SemanticLesson) :
    (withLesson memory lesson).lessons.length = memory.lessons.length + 1 := by
  simp [withLesson, connect_existing]

lemma evict_of_room {lesson : SemanticLesson} (h : memory.lessons.length < MAX_LESSONS) :
    evictLessons (withLesson memory lesson) = withLesson memory lesson := by
  have hexcess : (withLesson memory lesson).lessons.length - MAX_LESSONS = 0 := by
    rw [length_withLesson]
    omega
  simp [evictLessons, hexcess]

lemma evict_of_full {lesson oldest : SemanticLesson} {rest : List SemanticLesson}
    (hfull : memory.lessons.length = MAX_LESSONS)
    (hlessons : (withLesson memory lesson).lessons = oldest :: rest) :
    evictLessons (withLesson memory lesson) =
      { lessons := rest
        conceptIndex := removeFromConceptIndex (withLesson memory lesson).conceptIndex
          oldest.id } := by
  have hexcess : (withLesson memory lesson).lessons.length - MAX_LESSONS = 1 := by
    rw [length_withLesson]
    omega
  unfold evictLessons
  dsimp only
  rw [hexcess, hlessons]
  rfl

/-- The lesson that goes when there is no room is linked with the others exactly if it was before
or is linked with the new one. -/
lemma oldestUnlinked_iff {lesson oldest : SemanticLesson} {rest : List SemanticLesson}
    (hfull : memory.lessons.length = MAX_LESSONS)
    (hlessons : (withLesson memory lesson).lessons = oldest :: rest) :
    OldestUnlinked memory lesson ↔ oldest.relatedLessonIds = [] := by
  obtain ⟨lessons, index⟩ := memory
  cases lessons with
  | nil => simp [MAX_LESSONS] at hfull
  | cons first others =>
      have hfirst : oldest = linkedTo lesson first := by
        simp only [withLesson, connect_existing, List.map_cons, List.cons_append,
          List.cons.injEq] at hlessons
        exact hlessons.1.symm
      have hlast : OldestUnlinked ⟨first :: others, index⟩ lesson ↔
          first.relatedLessonIds = [] ∧ linked first lesson = false := by
        simp [OldestUnlinked, hfull]
      rw [hlast, hfirst, List.eq_nil_iff_forall_not_mem, List.eq_nil_iff_forall_not_mem]
      simp only [mem_linkedTo, not_or, not_and, forall_and]
      refine and_congr_right fun _ => ?_
      cases linked first lesson <;> simp

lemma oldestUnlinked_coerce (h : LessonsKept memory) {lesson : SemanticLesson} :
    OldestUnlinked (coerceLegacyMemory platform memory) lesson ↔ OldestUnlinked memory lesson := by
  unfold OldestUnlinked
  rw [h.lessons_coerce, List.length_map, List.head?_map]
  cases memory.lessons.head? with
  | none => simp
  | some oldest =>
      have hlinked : linked (coerceLesson platform oldest) lesson = linked oldest lesson := rfl
      have hrelated : (coerceLesson platform oldest).relatedLessonIds = oldest.relatedLessonIds :=
        rfl
      simp [hlinked, hrelated]

/-- A lesson that comes with own names, while no linked lesson goes, leaves the memory exact. -/
lemma LessonsKept.evict (h : LessonsKept memory) {lesson : SemanticLesson}
    (hown : OwnNames lesson.concepts) (hpresent : isPresent lesson.text = true)
    (hnew : lesson.relatedLessonIds = []) (hfresh : ∀ old ∈ memory.lessons, old.id ≠ lesson.id)
    (holdest : OldestUnlinked memory lesson) :
    LessonsKept (evictLessons (AgentBigBrain.Core.withLesson memory lesson)) := by
  obtain ⟨hexact, hids, hall⟩ := h.withLesson hown hpresent hnew hfresh
  rcases h.few.lt_or_eq with hroom | hfull
  · rw [evict_of_room hroom]
    exact
      { exact := hexact
        ids := hids
        own := fun kept hkept => (hall kept hkept).1
        apart := fun kept hkept => (hall kept hkept).2.1
        present := fun kept hkept => (hall kept hkept).2.2
        few := (length_withLesson memory lesson).trans_le hroom }
  · cases hlessons : (AgentBigBrain.Core.withLesson memory lesson).lessons with
    | nil =>
        have hlength := length_withLesson memory lesson
        simp [hlessons] at hlength
    | cons oldest rest =>
        have hunlinked := (oldestUnlinked_iff hfull hlessons).mp holdest
        rw [evict_of_full hfull hlessons]
        obtain ⟨hindex, hrelated⟩ := hexact
        rw [hlessons] at hindex hrelated hids hall
        have hlength := length_withLesson memory lesson
        rw [hlessons, List.length_cons, hfull] at hlength
        exact
          { exact := ⟨exact_tail hindex hids, mutual_tail hrelated hids hunlinked⟩
            ids := (List.nodup_cons.mp hids).2
            own := fun kept hkept => (hall kept (List.mem_cons_of_mem _ hkept)).1
            apart := fun kept hkept => (hall kept (List.mem_cons_of_mem _ hkept)).2.1
            present := fun kept hkept => (hall kept (List.mem_cons_of_mem _ hkept)).2.2
            few := by
              simp only at hlength ⊢
              omega }

/-- A linked lesson that goes leaves its id among the related lessons of another. -/
lemma LessonsKept.not_exact_evict (h : LessonsKept memory) {lesson : SemanticLesson}
    (hown : OwnNames lesson.concepts) (hpresent : isPresent lesson.text = true)
    (hnew : lesson.relatedLessonIds = []) (hfresh : ∀ old ∈ memory.lessons, old.id ≠ lesson.id)
    (holdest : ¬ OldestUnlinked memory lesson) :
    ¬ ExactLessons (evictLessons (AgentBigBrain.Core.withLesson memory lesson)) := by
  obtain ⟨hexact, hids, hall⟩ := h.withLesson hown hpresent hnew hfresh
  rcases h.few.lt_or_eq with hroom | hfull
  · exact absurd (fun hle => absurd hle (by omega)) holdest
  · cases hlessons : (AgentBigBrain.Core.withLesson memory lesson).lessons with
    | nil =>
        have hlength := length_withLesson memory lesson
        simp [hlessons] at hlength
    | cons oldest rest =>
        rw [oldestUnlinked_iff hfull hlessons] at holdest
        rw [evict_of_full hfull hlessons]
        have hrelated := hexact.related
        rw [hlessons] at hrelated hids hall
        intro hrest
        exact not_mutual_tail hrelated hids (hall oldest List.mem_cons_self).2.1 holdest
          hrest.related

/-! ## Calls -/

lemma buildLesson_concepts (platform : Platform) (input : AppendLessonInput)
    (readings : LessonReadings) : (buildLesson platform input readings).concepts =
      extractConcepts platform (trim input.lessonText) := by
  simp only [buildLesson]

lemma buildLesson_present (hpresent : isPresent input.lessonText = true) :
    isPresent (buildLesson platform input readings).text = true := by
  simp only [buildLesson, isPresent_trim, hpresent]

lemma LessonsKept.fresh_build (h : LessonsKept memory)
    (hfresh : ∀ lesson ∈ memory.lessons, lesson.id ≠ readings.newId) :
    ∀ lesson ∈ (coerceLegacyMemory platform memory).lessons,
      lesson.id ≠ (buildLesson platform input readings).id := by
  rw [h.lessons_coerce]
  intro lesson hlesson
  obtain ⟨old, hold, rfl⟩ := List.mem_map.mp hlesson
  exact hfresh old hold

/-- A lesson that is appended is known already, or blank, or comes to the others. -/
lemma lessonStep_append (h : LessonsKept memory)
    (hcalled : isPresent input.lessonText = true ∧
      hasLesson platform (coerceLegacyMemory platform memory) input = false) :
    lessonStep platform hostSort memory (.append input readings) =
      if OwnNames (buildLesson platform input readings).concepts then
        some (evictLessons (withLesson (coerceLegacyMemory platform memory)
          (buildLesson platform input readings)))
      else none := by
  have hkept : LessonsKept (coerceLegacyMemory platform memory) := h.coerce
  obtain ⟨hblank | hknown, -⟩ | ⟨-, -, happend⟩ :=
    appendLesson_cases platform (coerceLegacyMemory platform memory) input readings
  · rw [hcalled.1] at hblank
    cases hblank
  · rw [hcalled.2] at hknown
    cases hknown
  · rw [lessonStep, happend]
    split_ifs with hown
    · rw [addToConceptIndex_connected hown]
      rfl
    · obtain ⟨hsame, -⟩ := connect_new (coerceLegacyMemory platform memory).lessons
        (buildLesson platform input readings)
      rw [addToConceptIndex, hsame.concepts,
        foldlM_addConcept_eq_none hown hkept.no_inherited]

lemma lessonStep_skipped
    (h : isPresent input.lessonText = false ∨
      hasLesson platform (coerceLegacyMemory platform memory) input = true) :
    lessonStep platform hostSort memory (.append input readings) = some memory := by
  obtain ⟨-, happend⟩ | ⟨hpresent, hknown, -⟩ :=
    appendLesson_cases platform (coerceLegacyMemory platform memory) input readings
  · rw [lessonStep, happend]
  · rcases h with hblank | hsame
    · rw [hpresent] at hblank
      cases hblank
    · rw [hknown] at hsame
      cases hsame

lemma lessonStep_ask (h : LessonsKept memory) (query : LessonQuery)
    (vectorRows : List VectorSearchResult) :
    lessonStep platform hostSort memory (.ask query vectorRows) =
      if OwnNames (extractConcepts platform query.query) then some memory else none := by
  have hkept : LessonsKept (coerceLegacyMemory platform memory) := h.coerce
  unfold lessonStep getRelevantLessons
  dsimp only
  split
  · rename_i hconcepts
    rw [hconcepts]
    simp [OwnNames]
  · rw [Option.map_map]
    split_ifs with hown
    · obtain ⟨hits, hhits⟩ := Option.isSome_iff_exists.mp
        (@keywordHits_isSome (coerceLegacyMemory platform memory).conceptIndex _ hown)
      rw [hhits]
      rfl
    · rw [keywordHits_eq_none hown hkept.no_inherited]
      rfl

lemma lessonsKept_step (memory : SemanticMemory) (event : LessonEvent) (h : LessonsKept memory)
    (hfresh : FreshLesson memory event) (hkeeps : KeepsExact platform memory event) :
    ∃ next, lessonStep platform hostSort memory event = some next ∧ LessonsKept next := by
  cases event with
  | ask query vectorRows =>
      have hown : OwnNames (extractConcepts platform query.query) := hkeeps
      exact ⟨memory, by rw [lessonStep_ask h, if_pos hown], h⟩
  | append input readings =>
      by_cases hskipped : isPresent input.lessonText = false ∨
          hasLesson platform (coerceLegacyMemory platform memory) input = true
      · exact ⟨memory, lessonStep_skipped hskipped, h⟩
      · obtain ⟨hpresent, hnew⟩ := not_or.mp hskipped
        have hcalled : isPresent input.lessonText = true ∧
            hasLesson platform (coerceLegacyMemory platform memory) input = false :=
          ⟨Bool.eq_true_of_not_eq_false hpresent, Bool.eq_false_of_not_eq_true hnew⟩
        obtain hblank | hknown | ⟨hown, holdest⟩ := hkeeps
        · exact (hskipped (.inl hblank)).elim
        · exact (hskipped (.inr hknown)).elim
        · rw [← buildLesson_concepts platform input readings] at hown
          refine ⟨_, by rw [lessonStep_append h hcalled, if_pos hown], ?_⟩
          exact h.coerce.evict hown (buildLesson_present hcalled.1) rfl (h.fresh_build hfresh)
            ((oldestUnlinked_coerce h).mpr holdest)

lemma not_exact_step (memory : SemanticMemory) (event : LessonEvent) (next : SemanticMemory)
    (h : LessonsKept memory) (hfresh : FreshLesson memory event)
    (hkeeps : ¬ KeepsExact platform memory event)
    (hstep : lessonStep platform hostSort memory event = some next) : ¬ ExactLessons next := by
  cases event with
  | ask query vectorRows =>
      have hown : ¬ OwnNames (extractConcepts platform query.query) := hkeeps
      rw [lessonStep_ask h, if_neg hown] at hstep
      cases hstep
  | append input readings =>
      rw [KeepsExact, not_or, not_or, not_and] at hkeeps
      obtain ⟨hpresent, hnew, hlast⟩ := hkeeps
      have hcalled : isPresent input.lessonText = true ∧
          hasLesson platform (coerceLegacyMemory platform memory) input = false :=
        ⟨Bool.eq_true_of_not_eq_false hpresent, Bool.eq_false_of_not_eq_true hnew⟩
      rw [← buildLesson_concepts platform input readings] at hlast
      rw [lessonStep_append h hcalled] at hstep
      split_ifs at hstep with hown
      obtain rfl := Option.some.inj hstep
      refine h.coerce.not_exact_evict hown (buildLesson_present hcalled.1) rfl
        (h.fresh_build hfresh) ?_
      rw [oldestUnlinked_coerce h]
      exact hlast hown

/-- From an empty store, calls with new ids return and leave the index exact and the links mutual,
one after another, exactly if each of them asks for or appends no concept that names an inherited
member and evicts no linked lesson. -/
theorem lessons_stay_exact_iff {events : List LessonEvent}
    (hfresh : Along (lessonStep platform hostSort) FreshLesson .empty events) :
    Always (lessonStep platform hostSort) ExactLessons .empty events ↔
      Along (lessonStep platform hostSort) (KeepsExact platform) .empty events :=
  always_iff_along (fun _ h => h.exact) lessonsKept_step not_exact_step lessonsKept_empty hfresh

/-! ## Two stores -/

def lessonPlatform : Platform := .ofDates []

def lessonOf (text : String) : AppendLessonInput where
  lessonText := text
  sourceTaskId := none
  committedByAgentId := "main-agent"
  memoryType := .experience
  signalMetadata := none
  domainTag := none
  sourceRecallRefs := []
  principalAccess := none

def appendOf (text newId : String) : LessonEvent :=
  .append (lessonOf text) { newId := newId, nowIso := "2026-01-01T00:00:00.000Z" }

def askOf (query : String) : LessonEvent :=
  .ask
    { query := query, limit := 6, memoryType := none, sessionDomainLane := none,
      accessOptions := none } []

/-- Two lessons with two concepts in common, and a question. -/
theorem linked_lessons_stay_exact :
    Always (lessonStep lessonPlatform .insertion) ExactLessons .empty
      [appendOf "deploy scripts need retries" "lesson_1",
        appendOf "deploy scripts leave logs" "lesson_2", askOf "which scripts deploy"] :=
  (lessons_stay_exact_iff (by decide +kernel)).mpr (by decide +kernel)

/-- A lesson with the word "constructor" is not appended: the call throws. -/
theorem constructor_lesson_throws :
    ¬ ∀ events, Along (lessonStep lessonPlatform .insertion) FreshLesson .empty events →
      Always (lessonStep lessonPlatform .insertion) ExactLessons .empty events := by
  intro h
  obtain ⟨-, next, hnext, -⟩ := h [appendOf "the constructor failed" "lesson_1"] (by decide +kernel)
  have hthrows : (lessonStep lessonPlatform .insertion .empty
      (appendOf "the constructor failed" "lesson_1")).isNone = true := by decide
  rw [hnext] at hthrows
  cases hthrows

end AgentBigBrain.Core
