import AgentBigBrain.Core.EntityGraphExtraction

/-!
# What the cap of relations guarantees

The rounds of `enforceEdgeCaps` only ever drop relations, there are enough of them, and they
end with no entity over its cap. The empty entity key would end them early: no graph has it.
-/
namespace AgentBigBrain.Core

open AgentBigBrain.Js AgentBigBrain.Lib

variable {platform : GraphPlatform}

def touches (entityKey : String) (edge : RelationEdgeV1) : Bool :=
  decide (edge.sourceEntityKey = entityKey) || decide (edge.targetEntityKey = entityKey)

/-- No entity has more relations than its cap. -/
def WithinEdgeCap (cap : ℕ) (edges : List RelationEdgeV1) : Prop :=
  ∀ entityKey, (edges.filter (touches entityKey)).length ≤ cap

lemma mem_edgesOfEntity {entityKey : String} {edge : RelationEdgeV1}
    {edges : List RelationEdgeV1} (h : edge ∈ edgesOfEntity entityKey edges) :
    edge ∈ edges ∧ touches entityKey edge = true := by
  obtain ⟨other, hother, hmem⟩ := List.mem_flatMap.mp h
  rw [List.mem_append] at hmem
  rcases hmem with hmem | hmem
  · split_ifs at hmem with hend
    · rw [List.mem_singleton.mp hmem]
      exact ⟨hother, by simp [touches, hend]⟩
    · cases hmem
  · split_ifs at hmem with hend
    · rw [List.mem_singleton.mp hmem]
      exact ⟨hother, by simp [touches, hend]⟩
    · cases hmem

/-- A relation with itself is counted twice, every other one once. -/
lemma length_filter_touches_le (entityKey : String) (edges : List RelationEdgeV1) :
    (edges.filter (touches entityKey)).length ≤ (edgesOfEntity entityKey edges).length := by
  induction edges with
  | nil => simp
  | cons edge edges ih =>
      have hcons : edgesOfEntity entityKey (edge :: edges) =
          ((if edge.sourceEntityKey = entityKey then [edge] else []) ++
            (if edge.targetEntityKey = entityKey then [edge] else [])) ++
              edgesOfEntity entityKey edges := rfl
      rw [hcons]
      by_cases htouch : touches entityKey edge = true
      · have hone : 1 ≤ ((if edge.sourceEntityKey = entityKey then [edge] else []) ++
            (if edge.targetEntityKey = entityKey then [edge] else [])).length := by
          rcases (by simpa [touches] using htouch : edge.sourceEntityKey = entityKey ∨
            edge.targetEntityKey = entityKey) with hend | hend <;> simp [hend]
        rw [List.filter_cons_of_pos htouch, List.length_cons, List.length_append]
        omega
      · rw [List.filter_cons_of_neg htouch, List.length_append]
        omega

lemma withinEdgeCap_of_none {cap : ℕ} {edges : List RelationEdgeV1}
    (h : overCapEntity platform cap edges = none) : WithinEdgeCap cap edges := by
  intro entityKey
  refine (length_filter_touches_le entityKey edges).trans ?_
  by_contra hover
  have hfiltered : (edgeEnds edges).filter
      (fun key => cap < (edgesOfEntity key edges).length) = [] := by
    have hsorted := List.head?_eq_none_iff.mp h
    have hlength := platform.locale.length_sort
      ((edgeEnds edges).filter fun key => cap < (edgesOfEntity key edges).length)
    rw [hsorted] at hlength
    exact List.eq_nil_of_length_eq_zero hlength.symm
  obtain ⟨edge, hedge⟩ : ∃ edge, edge ∈ edgesOfEntity entityKey edges := by
    refine List.exists_mem_of_ne_nil _ fun hnil => hover ?_
    simp [hnil]
  have htouch := mem_edgesOfEntity hedge
  have hend : entityKey ∈ edgeEnds edges := by
    refine mem_uniqueValues.mpr (List.mem_flatMap.mpr ⟨edge, htouch.1, ?_⟩)
    rcases (by simpa [touches] using htouch.2 : edge.sourceEntityKey = entityKey ∨
      edge.targetEntityKey = entityKey) with hsame | hsame <;> simp [hsame]
  have hmem : entityKey ∈ (edgeEnds edges).filter
      (fun key => cap < (edgesOfEntity key edges).length) :=
    List.mem_filter.mpr ⟨hend, by simpa using hover⟩
  rw [hfiltered] at hmem
  cases hmem

lemma mem_of_overCapEntity {cap : ℕ} {edges : List RelationEdgeV1} {entityKey : String}
    (h : overCapEntity platform cap edges = some entityKey) :
    cap < (edgesOfEntity entityKey edges).length := by
  have hmem := platform.locale.mem_sort.mp (List.mem_of_mem_head? h)
  simpa using (List.mem_filter.mp hmem).2

lemma evictEdges_sublist (cap rounds : ℕ) (edges : List RelationEdgeV1) :
    (evictEdges platform cap rounds edges).1.Sublist edges := by
  induction rounds generalizing edges with
  | zero => exact List.Sublist.refl _
  | succ rounds ih =>
      unfold evictEdges
      split
      · exact List.Sublist.refl _
      · split_ifs
        · exact List.Sublist.refl _
        · split
          · exact List.Sublist.refl _
          · exact (ih _).trans List.filter_sublist

/-- With a round for each relation, the loop ends because no entity is over its cap. -/
lemma withinEdgeCap_evictEdges (cap rounds : ℕ) (edges : List RelationEdgeV1)
    (hrounds : edges.length ≤ rounds)
    (hkeyed : ∀ edge ∈ edges, edge.sourceEntityKey ≠ "" ∧ edge.targetEntityKey ≠ "") :
    WithinEdgeCap cap (evictEdges platform cap rounds edges).1 := by
  induction rounds generalizing edges with
  | zero =>
      have hnil : edges = [] := List.eq_nil_of_length_eq_zero (Nat.le_zero.mp hrounds)
      intro entityKey
      simp [evictEdges, hnil]
  | succ rounds ih =>
      unfold evictEdges
      split
      · rename_i hnone
        exact withinEdgeCap_of_none hnone
      · rename_i entityKey hover
        have hlong := mem_of_overCapEntity hover
        obtain ⟨edge, hedge⟩ := List.exists_mem_of_length_pos (Nat.zero_lt_of_lt hlong)
        have htouch := mem_edgesOfEntity hedge
        have hne : entityKey ≠ "" := by
          rintro rfl
          have hends := hkeyed edge htouch.1
          simp [touches, hends.1, hends.2] at htouch
        rw [if_neg hne]
        split
        · rename_i hnil
          have hlength := (weakestOrder platform).length_sort (edgesOfEntity entityKey edges)
          rw [hnil, List.length_nil] at hlength
          omega
        · rename_i edgeToEvict rest hsorted
          have hmem : edgeToEvict ∈ edgesOfEntity entityKey edges :=
            (weakestOrder platform).mem_sort.mp (hsorted ▸ List.mem_cons_self)
          have hshort : (edges.filter fun edge => edge.edgeKey ≠ edgeToEvict.edgeKey).length <
              edges.length := by
            refine List.length_filter_lt_length_iff_exists.mpr ?_
            exact ⟨edgeToEvict, (mem_edgesOfEntity hmem).1, by simp⟩
          refine ih _ (by omega) fun kept hkept => hkeyed kept ?_
          exact List.mem_of_mem_filter hkept

variable (platform) in
theorem withinEdgeCap_enforceEdgeCaps {edges : List RelationEdgeV1}
    (hkeyed : ∀ edge ∈ edges, edge.sourceEntityKey ≠ "" ∧ edge.targetEntityKey ≠ "")
    (maxGraphEdgesPerEntity : ℚ) :
    WithinEdgeCap (edgeCap maxGraphEdgesPerEntity)
      (enforceEdgeCaps platform edges maxGraphEdgesPerEntity).1 :=
  withinEdgeCap_evictEdges _ _ edges le_rfl hkeyed

variable (platform) in
lemma enforceEdgeCaps_sublist (edges : List RelationEdgeV1) (maxGraphEdgesPerEntity : ℚ) :
    (enforceEdgeCaps platform edges maxGraphEdgesPerEntity).1.Sublist edges :=
  evictEdges_sublist _ _ edges

/-! ## One round -/

variable {cap : ℕ} {edges : List RelationEdgeV1}

def OverEdgeCap (cap : ℕ) (edges : List RelationEdgeV1) (entityKey : String) : Prop :=
  cap < (edges.filter (touches entityKey)).length

variable (platform) in
/-- The relation the next round gives up. -/
def nextToEvict (cap : ℕ) (edges : List RelationEdgeV1) : Option RelationEdgeV1 :=
  match overCapEntity platform cap edges with
  | none => none
  | some entityKey =>
      if entityKey = "" then none
      else ((weakestOrder platform).sort (edgesOfEntity entityKey edges)).head?

def withoutEdge (edges : List RelationEdgeV1) (edgeKey : String) : List RelationEdgeV1 :=
  edges.filter fun edge => edge.edgeKey ≠ edgeKey

variable (platform) in
def IsWeakestOf (entityKey : String) (edges : List RelationEdgeV1) (edge : RelationEdgeV1) : Prop :=
  edge ∈ edges ∧ touches entityKey edge = true ∧
    ∀ other ∈ edges, touches entityKey other = true →
      (weakestOrder platform).le edge other = true

lemma mem_edgesOfEntity_iff {entityKey : String} {edge : RelationEdgeV1} :
    edge ∈ edgesOfEntity entityKey edges ↔ edge ∈ edges ∧ touches entityKey edge = true := by
  refine ⟨mem_edgesOfEntity, fun h => List.mem_flatMap.mpr ⟨edge, h.1, ?_⟩⟩
  rcases (by simpa [touches] using h.2 : edge.sourceEntityKey = entityKey ∨
    edge.targetEntityKey = entityKey) with hend | hend
  · simp [hend]
  · simp [hend]

lemma isWeakestOf_head {entityKey : String} {edge : RelationEdgeV1}
    (h : ((weakestOrder platform).sort (edgesOfEntity entityKey edges)).head? = some edge) :
    IsWeakestOf platform entityKey edges edge := by
  obtain ⟨rest, hsorted⟩ := List.head?_eq_some_iff.mp h
  have hmem : edge ∈ edgesOfEntity entityKey edges :=
    (weakestOrder platform).mem_sort.mp (hsorted ▸ List.mem_cons_self)
  have horder := (weakestOrder platform).sorted_sort (edgesOfEntity entityKey edges)
  rw [hsorted] at horder
  refine ⟨(mem_edgesOfEntity hmem).1, (mem_edgesOfEntity hmem).2, fun other hother htouch => ?_⟩
  have hlisted := (weakestOrder platform).mem_sort.mpr (mem_edgesOfEntity_iff.mpr ⟨hother, htouch⟩)
  rw [hsorted] at hlisted
  rcases List.mem_cons.mp hlisted with hsame | hlater
  · rw [hsame]
    exact (weakestOrder platform).le_refl edge
  · exact List.rel_of_pairwise_cons horder hlater

lemma evictEdges_succ (rounds : ℕ) :
    evictEdges platform cap (rounds + 1) edges =
      match nextToEvict platform cap edges with
      | none => (edges, [])
      | some edge =>
          let (kept, evictedEdgeKeys) := evictEdges platform cap rounds
            (withoutEdge edges edge.edgeKey)
          (kept, edge.edgeKey :: evictedEdgeKeys) := by
  conv_lhs => unfold evictEdges
  unfold nextToEvict withoutEdge
  cases hover : overCapEntity platform cap edges with
  | none => rfl
  | some entityKey =>
      by_cases hempty : entityKey = ""
      · simp [hempty]
      · simp only [if_neg hempty]
        cases (weakestOrder platform).sort (edgesOfEntity entityKey edges) with
        | nil => rfl
        | cons edge rest => rfl

lemma evictEdges_of_none (h : nextToEvict platform cap edges = none) (rounds : ℕ) :
    evictEdges platform cap rounds edges = (edges, []) := by
  cases rounds with
  | zero => rfl
  | succ rounds => rw [evictEdges_succ, h]

lemma nextToEvict_eq_some {edge : RelationEdgeV1} (h : nextToEvict platform cap edges = some edge) :
    ∃ entityKey, overCapEntity platform cap edges = some entityKey ∧ entityKey ≠ "" ∧
      IsWeakestOf platform entityKey edges edge := by
  unfold nextToEvict at h
  split at h
  · cases h
  · rename_i entityKey hover
    split_ifs at h with hempty
    exact ⟨entityKey, hover, hempty, isWeakestOf_head h⟩

/-- The loop stops where no entity counts as over its cap, or the first that does is empty. -/
lemma nextToEvict_eq_none (h : nextToEvict platform cap edges = none) :
    overCapEntity platform cap edges = none ∨ overCapEntity platform cap edges = some "" := by
  unfold nextToEvict at h
  split at h
  · rename_i hnone
    exact Or.inl hnone
  · rename_i entityKey hover
    split_ifs at h with hempty
    · rw [hover, hempty]
      exact Or.inr rfl
    · have hlength := (weakestOrder platform).length_sort (edgesOfEntity entityKey edges)
      rw [List.head?_eq_none_iff.mp h, List.length_nil] at hlength
      have hlong := mem_of_overCapEntity hover
      omega

lemma length_withoutEdge_lt {edge : RelationEdgeV1} (h : edge ∈ edges) :
    (withoutEdge edges edge.edgeKey).length < edges.length :=
  List.length_filter_lt_length_iff_exists.mpr ⟨edge, h, by simp⟩

/-! ## Whole runs -/

variable (platform) in
/-- Every relation was, when its round came, the weakest one of an entity over its cap. -/
def EachWeakest (cap : ℕ) : List RelationEdgeV1 → List String → Prop
  | _, [] => True
  | edges, edgeKey :: evictedEdgeKeys =>
      (∃ entityKey edge, edge.edgeKey = edgeKey ∧ OverEdgeCap cap edges entityKey ∧
        IsWeakestOf platform entityKey edges edge) ∧
      EachWeakest cap (withoutEdge edges edgeKey) evictedEdgeKeys

variable (platform) in
/-- What enforcing a cap is for. -/
structure CapEnforced (cap : ℕ) (edges kept : List RelationEdgeV1)
    (evictedEdgeKeys : List String) : Prop where
  /-- More rounds change nothing. -/
  ended : ∀ rounds, evictEdges platform cap rounds kept = (kept, [])
  within : WithinEdgeCap cap kept
  kept_eq : kept = edges.filter fun edge => edge.edgeKey ∉ evictedEdgeKeys
  parted : (kept.map RelationEdgeV1.edgeKey ++ evictedEdgeKeys).Perm
    (edges.map RelationEdgeV1.edgeKey)
  weakest : EachWeakest platform cap edges evictedEdgeKeys

variable (platform) in
/-- The relations the loop holds at the start of a round. -/
inductive RoundReached (cap : ℕ) (edges : List RelationEdgeV1) : List RelationEdgeV1 → Prop where
  | start : RoundReached cap edges edges
  | next {held : List RelationEdgeV1} {edge : RelationEdgeV1} (hheld : RoundReached cap edges held)
      (hedge : nextToEvict platform cap held = some edge) :
      RoundReached cap edges (withoutEdge held edge.edgeKey)

def otherEnd (entityKey : String) (edge : RelationEdgeV1) : String :=
  if edge.sourceEntityKey = entityKey then edge.targetEntityKey else edge.sourceEntityKey

variable (platform) in
/-- The entity a round picks counts a relation with itself twice: it is over its cap without that,
or its weakest relation is due at the other end. -/
def RoundFair (cap : ℕ) (held : List RelationEdgeV1) : Prop :=
  ∀ entityKey, overCapEntity platform cap held = some entityKey →
    (entityKey = "" → WithinEdgeCap cap held) ∧
    (entityKey ≠ "" → OverEdgeCap cap held entityKey ∨
      ∀ edge, nextToEvict platform cap held = some edge →
        OverEdgeCap cap held (otherEnd entityKey edge) ∧
          IsWeakestOf platform (otherEnd entityKey edge) held edge)

lemma RoundReached.later {held : List RelationEdgeV1} {edge : RelationEdgeV1}
    (hedge : nextToEvict platform cap edges = some edge)
    (h : RoundReached platform cap (withoutEdge edges edge.edgeKey) held) :
    RoundReached platform cap edges held := by
  induction h with
  | start => exact .next .start hedge
  | next hheld hnext ih => exact .next ih hnext

lemma RoundReached.eq_of_none {held : List RelationEdgeV1}
    (hnone : nextToEvict platform cap edges = none) (h : RoundReached platform cap edges held) :
    held = edges := by
  induction h with
  | start => rfl
  | next hheld hnext ih =>
      rw [ih, hnone] at hnext
      cases hnext

lemma RoundReached.eq_or_later {held : List RelationEdgeV1} {edge : RelationEdgeV1}
    (hedge : nextToEvict platform cap edges = some edge)
    (h : RoundReached platform cap edges held) :
    held = edges ∨ RoundReached platform cap (withoutEdge edges edge.edgeKey) held := by
  induction h with
  | start => exact Or.inl rfl
  | next hheld hnext ih =>
      rcases ih with rfl | hlater
      · rw [hedge] at hnext
        cases hnext
        exact Or.inr .start
      · exact Or.inr (.next hlater hnext)

lemma touches_cases {entityKey other : String} {edge : RelationEdgeV1}
    (h : touches entityKey edge = true) (hother : touches other edge = true) :
    other = entityKey ∨ other = otherEnd entityKey edge := by
  simp only [touches, Bool.or_eq_true, decide_eq_true_eq] at h hother
  unfold otherEnd
  split_ifs with hsource
  · rcases hother with hend | hend
    · exact Or.inl (hend.symm.trans hsource)
    · exact Or.inr hend.symm
  · rcases hother with hend | hend
    · exact Or.inr hend.symm
    · rcases h with hfirst | hfirst
      · exact absurd hfirst hsource
      · exact Or.inl (hend.symm.trans hfirst)

/-- A round is fair exactly when what it gives up is the weakest of an entity over its cap. -/
lemma roundFair_iff_of_some {edge : RelationEdgeV1} (hdistinct : edgesByKey.Distinct edges)
    (hedge : nextToEvict platform cap edges = some edge) :
    RoundFair platform cap edges ↔ ∃ entityKey evicted, evicted.edgeKey = edge.edgeKey ∧
      OverEdgeCap cap edges entityKey ∧ IsWeakestOf platform entityKey edges evicted := by
  obtain ⟨picked, hover, hne, hweakest⟩ := nextToEvict_eq_some hedge
  constructor
  · intro hfair
    rcases (hfair picked hover).2 hne with hpicked | hother
    · exact ⟨picked, edge, rfl, hpicked, hweakest⟩
    · exact ⟨otherEnd picked edge, edge, rfl, hother edge hedge⟩
  · rintro ⟨entityKey, evicted, hkey, hcap, hleast⟩
    have hsame : evicted = edge := edgesByKey.eq_of_distinct hdistinct hleast.1 hweakest.1 hkey
    subst hsame
    intro other hpicked
    obtain rfl : picked = other := Option.some.inj (hover.symm.trans hpicked)
    refine ⟨fun hempty => absurd hempty hne, fun _ => ?_⟩
    rcases touches_cases hweakest.2.1 hleast.2.1 with rfl | rfl
    · exact Or.inl hcap
    · refine Or.inr fun chosen hchosen => ?_
      obtain rfl : evicted = chosen := Option.some.inj (hedge.symm.trans hchosen)
      exact ⟨hcap, hleast⟩

lemma roundFair_iff_of_none (hnone : nextToEvict platform cap edges = none) :
    RoundFair platform cap edges ↔ WithinEdgeCap cap edges := by
  constructor
  · intro hfair
    rcases nextToEvict_eq_none hnone with hover | hover
    · exact withinEdgeCap_of_none hover
    · exact (hfair "" hover).1 rfl
  · intro hwithin entityKey hover
    refine ⟨fun _ => hwithin, fun hne => ?_⟩
    rcases nextToEvict_eq_none hnone with hstop | hstop
    · rw [hstop] at hover
      cases hover
    · rw [hstop] at hover
      exact absurd (Option.some.inj hover).symm hne

lemma perm_withoutEdge {edge : RelationEdgeV1} (hdistinct : edgesByKey.Distinct edges)
    (h : edge ∈ edges) :
    (edges.map RelationEdgeV1.edgeKey).Perm
      (edge.edgeKey :: (withoutEdge edges edge.edgeKey).map RelationEdgeV1.edgeKey) := by
  have hkeys : (withoutEdge edges edge.edgeKey).map RelationEdgeV1.edgeKey =
      (edges.map RelationEdgeV1.edgeKey).filter fun edgeKey => edgeKey != edge.edgeKey := by
    rw [withoutEdge, List.filter_map]
    congr 1
    refine List.filter_congr fun other _ => ?_
    simp [bne, Bool.beq_eq_decide_eq]
  have hnodup : (edges.map RelationEdgeV1.edgeKey).Nodup := hdistinct
  rw [hkeys, ← hnodup.erase_eq_filter]
  exact List.perm_cons_erase (List.mem_map_of_mem h)

lemma capEnforced_cons {edge : RelationEdgeV1} {kept : List RelationEdgeV1}
    {evictedEdgeKeys : List String} (hdistinct : edgesByKey.Distinct edges) (h : edge ∈ edges) :
    CapEnforced platform cap edges kept (edge.edgeKey :: evictedEdgeKeys) ↔
      (∃ entityKey evicted, evicted.edgeKey = edge.edgeKey ∧ OverEdgeCap cap edges entityKey ∧
        IsWeakestOf platform entityKey edges evicted) ∧
      CapEnforced platform cap (withoutEdge edges edge.edgeKey) kept evictedEdgeKeys := by
  have hkept : (edges.filter fun other => other.edgeKey ∉ edge.edgeKey :: evictedEdgeKeys) =
      (withoutEdge edges edge.edgeKey).filter fun other => other.edgeKey ∉ evictedEdgeKeys := by
    rw [withoutEdge, List.filter_filter]
    refine List.filter_congr fun other _ => ?_
    simp [not_or, Bool.and_comm]
  have hparted : (kept.map RelationEdgeV1.edgeKey ++ edge.edgeKey :: evictedEdgeKeys).Perm
      (edges.map RelationEdgeV1.edgeKey) ↔
        (kept.map RelationEdgeV1.edgeKey ++ evictedEdgeKeys).Perm
          ((withoutEdge edges edge.edgeKey).map RelationEdgeV1.edgeKey) := by
    rw [(List.perm_middle.congr_left _), (perm_withoutEdge hdistinct h).congr_right]
    exact List.perm_cons _
  constructor
  · intro henforced
    exact ⟨henforced.weakest.1, henforced.ended, henforced.within,
      henforced.kept_eq.trans hkept, hparted.mp henforced.parted, henforced.weakest.2⟩
  · rintro ⟨hfirst, henforced⟩
    exact ⟨henforced.ended, henforced.within, henforced.kept_eq.trans hkept.symm,
      hparted.mpr henforced.parted, hfirst, henforced.weakest⟩

lemma capEnforced_of_none (hnone : nextToEvict platform cap edges = none) :
    CapEnforced platform cap edges edges [] ↔ WithinEdgeCap cap edges := by
  refine ⟨fun h => h.within, fun hwithin => ⟨evictEdges_of_none hnone, hwithin, ?_, ?_, trivial⟩⟩
  · simp
  · simp

lemma distinct_withoutEdge (hdistinct : edgesByKey.Distinct edges) (edgeKey : String) :
    edgesByKey.Distinct (withoutEdge edges edgeKey) :=
  List.Nodup.sublist (List.filter_sublist.map _) hdistinct

/-- With a round for each relation, the loop ends and enforces the cap iff its rounds are fair. -/
theorem capEnforced_evictEdges_iff (rounds : ℕ) (hrounds : edges.length ≤ rounds)
    (hdistinct : edgesByKey.Distinct edges) :
    CapEnforced platform cap edges (evictEdges platform cap rounds edges).1
        (evictEdges platform cap rounds edges).2 ↔
      ∀ held, RoundReached platform cap edges held → RoundFair platform cap held := by
  induction rounds generalizing edges with
  | zero =>
      obtain rfl := List.eq_nil_of_length_eq_zero (Nat.le_zero.mp hrounds)
      have hnone : nextToEvict platform cap [] = none := rfl
      rw [evictEdges_of_none hnone, capEnforced_of_none hnone, ← roundFair_iff_of_none hnone]
      refine ⟨fun hfair held hheld => ?_, fun hfair => hfair [] .start⟩
      rw [hheld.eq_of_none hnone]
      exact hfair
  | succ rounds ih =>
      cases hnext : nextToEvict platform cap edges with
      | none =>
          rw [evictEdges_of_none hnext, capEnforced_of_none hnext, ← roundFair_iff_of_none hnext]
          refine ⟨fun hfair held hheld => ?_, fun hfair => hfair edges .start⟩
          rw [hheld.eq_of_none hnext]
          exact hfair
      | some edge =>
          obtain ⟨_, _, _, hweakest⟩ := nextToEvict_eq_some hnext
          have hmem := hweakest.1
          have hshort := length_withoutEdge_lt hmem
          have hrest := ih (by omega) (distinct_withoutEdge hdistinct edge.edgeKey)
          rw [evictEdges_succ, hnext]
          rw [capEnforced_cons hdistinct hmem, hrest, ← roundFair_iff_of_some hdistinct hnext]
          constructor
          · rintro ⟨hfirst, hlater⟩ held hheld
            rcases hheld.eq_or_later hnext with rfl | hheld
            · exact hfirst
            · exact hlater held hheld
          · intro hfair
            exact ⟨hfair edges .start, fun held hheld => hfair held (hheld.later hnext)⟩

/-- The map `new Map(edges.map((edge) => [edge.edgeKey, edge]))` the relations come in. -/
def edgeMap (edges : List RelationEdgeV1) : List RelationEdgeV1 :=
  edgesByKey.collect [] edges

lemma distinct_edgeMap (edges : List RelationEdgeV1) : edgesByKey.Distinct (edgeMap edges) :=
  edgesByKey.distinct_collect List.nodup_nil

/-- Rounds beyond one for each relation change nothing. -/
lemma evictEdges_eq_of_le {rounds more : ℕ} (hrounds : edges.length ≤ rounds)
    (hmore : edges.length ≤ more) :
    evictEdges platform cap rounds edges = evictEdges platform cap more edges := by
  induction rounds generalizing edges more with
  | zero =>
      obtain rfl := List.eq_nil_of_length_eq_zero (Nat.le_zero.mp hrounds)
      exact (evictEdges_of_none rfl more).symm
  | succ rounds ih =>
      cases hnext : nextToEvict platform cap edges with
      | none => rw [evictEdges_of_none hnext, evictEdges_of_none hnext]
      | some edge =>
          obtain ⟨_, _, _, hweakest⟩ := nextToEvict_eq_some hnext
          have hshort := length_withoutEdge_lt hweakest.1
          obtain ⟨further, rfl⟩ : ∃ further, more = further + 1 := ⟨more - 1, by omega⟩
          have hrest := @ih (withoutEdge edges edge.edgeKey) further (by omega) (by omega)
          simp only [evictEdges_succ, hnext, hrest]

/-- The rounds always end, and they enforce the cap exactly when each of them is fair. -/
theorem capEnforced_iff (platform : GraphPlatform) (edges : List RelationEdgeV1)
    (maxGraphEdgesPerEntity : ℚ) :
    let enforced := enforceEdgeCaps platform (edgeMap edges) maxGraphEdgesPerEntity
    let cap := edgeCap maxGraphEdgesPerEntity
    (∀ rounds, (edgeMap edges).length ≤ rounds →
      evictEdges platform cap rounds (edgeMap edges) = enforced) ∧
    (CapEnforced platform cap (edgeMap edges) enforced.1 enforced.2 ↔
      ∀ held, RoundReached platform cap (edgeMap edges) held → RoundFair platform cap held) :=
  ⟨fun _ hrounds => evictEdges_eq_of_le hrounds le_rfl,
    capEnforced_evictEdges_iff _ le_rfl (distinct_edgeMap edges)⟩

/-- Without empty keys and relations of an entity with itself every round is fair. -/
lemma roundFair_of_plain {held : List RelationEdgeV1}
    (hplain : ∀ edge ∈ held, edge.sourceEntityKey ≠ "" ∧ edge.targetEntityKey ≠ "" ∧
      edge.sourceEntityKey ≠ edge.targetEntityKey) : RoundFair platform cap held := by
  intro entityKey hover
  have hlong := mem_of_overCapEntity hover
  constructor
  · rintro rfl
    obtain ⟨edge, hedge⟩ := List.exists_mem_of_length_pos (Nat.zero_lt_of_lt hlong)
    have hends := hplain edge (mem_edgesOfEntity hedge).1
    have htouch := (mem_edgesOfEntity hedge).2
    simp [touches, hends.1, hends.2.1] at htouch
  · intro _
    refine Or.inl (hlong.trans_le ?_)
    clear hover hlong
    induction held with
    | nil => simp [edgesOfEntity]
    | cons edge held ih =>
        have hrest := ih fun other hother => hplain other (List.mem_cons_of_mem _ hother)
        have hends := (hplain edge List.mem_cons_self).2.2
        have hcons : edgesOfEntity entityKey (edge :: held) =
            ((if edge.sourceEntityKey = entityKey then [edge] else []) ++
              (if edge.targetEntityKey = entityKey then [edge] else [])) ++
                edgesOfEntity entityKey held := rfl
        rw [hcons, List.length_append]
        by_cases hsource : edge.sourceEntityKey = entityKey
        · have htarget : edge.targetEntityKey ≠ entityKey := fun h => hends (hsource.trans h.symm)
          rw [List.filter_cons_of_pos (by simp [touches, hsource])]
          simp only [if_pos hsource, if_neg htarget, List.append_nil, List.length_cons,
            List.length_nil]
          omega
        · by_cases htarget : edge.targetEntityKey = entityKey
          · rw [List.filter_cons_of_pos (by simp [touches, htarget])]
            simp only [if_neg hsource, if_pos htarget, List.nil_append, List.length_cons,
              List.length_nil]
            omega
          · rw [List.filter_cons_of_neg (by simp [touches, hsource, htarget])]
            simpa [hsource, htarget] using hrest

lemma RoundReached.subset {held : List RelationEdgeV1} (h : RoundReached platform cap edges held) :
    held ⊆ edges := by
  induction h with
  | start => exact List.Subset.refl _
  | next hheld hnext ih => exact fun edge hedge => ih (List.mem_of_mem_filter hedge)

variable (platform) in
/-- Relations between different named entities always have their cap enforced. -/
theorem capEnforced_of_plain (maxGraphEdgesPerEntity : ℚ)
    (hplain : ∀ edge ∈ edges, edge.sourceEntityKey ≠ "" ∧ edge.targetEntityKey ≠ "" ∧
      edge.sourceEntityKey ≠ edge.targetEntityKey) :
    CapEnforced platform (edgeCap maxGraphEdgesPerEntity) (edgeMap edges)
      (enforceEdgeCaps platform (edgeMap edges) maxGraphEdgesPerEntity).1
      (enforceEdgeCaps platform (edgeMap edges) maxGraphEdgesPerEntity).2 := by
  refine (capEnforced_evictEdges_iff _ le_rfl (distinct_edgeMap edges)).mpr fun held hheld => ?_
  refine roundFair_of_plain fun edge hedge => ?_
  exact edgesByKey.forall_collect (by simp) hplain (fun _ _ _ _ hlater => hlater) edge
    (hheld.subset hedge)

def plainRelation (edgeKey sourceEntityKey targetEntityKey : String) : RelationEdgeV1 where
  edgeKey := edgeKey
  sourceEntityKey := sourceEntityKey
  targetEntityKey := targetEntityKey
  relationType := .coMentioned
  status := .uncertain
  coMentionCount := 1
  strength := 1
  firstObservedAt := "2026-03-01T00:00:00.000Z"
  lastObservedAt := "2026-03-01T00:00:00.000Z"
  evidenceRefs := ["trace:seed"]

/-- A relation of an entity with itself is given up although it is the only one, and the empty
entity key ends the rounds early. -/
theorem self_relation_and_empty_key :
    ¬ CapEnforced (.ofDates []) (edgeCap 1) (edgeMap [plainRelation "edge_0001" "acme" "acme"])
        (enforceEdgeCaps (.ofDates []) (edgeMap [plainRelation "edge_0001" "acme" "acme"]) 1).1
        (enforceEdgeCaps (.ofDates []) (edgeMap [plainRelation "edge_0001" "acme" "acme"]) 1).2 ∧
    ¬ WithinEdgeCap (edgeCap 1) (enforceEdgeCaps (.ofDates [])
        (edgeMap [plainRelation "edge_0001" "" "acme", plainRelation "edge_0002" "" "atlas"]) 1).1 := by
  constructor
  · intro h
    have hevicted : (enforceEdgeCaps (.ofDates [])
        (edgeMap [plainRelation "edge_0001" "acme" "acme"]) 1).2 = ["edge_0001"] := by decide
    have hweakest := h.weakest
    rw [hevicted] at hweakest
    obtain ⟨entityKey, _, _, hover, _⟩ := hweakest.1
    have hlength := List.length_filter_le (touches entityKey)
      (edgeMap [plainRelation "edge_0001" "acme" "acme"])
    have hone : (edgeMap [plainRelation "edge_0001" "acme" "acme"]).length = 1 := by decide
    have hcap : edgeCap 1 = 1 := by decide
    unfold OverEdgeCap at hover
    omega
  · intro h
    have htwo := h ""
    revert htwo
    decide

end AgentBigBrain.Core
