import AgentBigBrain.Core.JournalReplayOrder
import AgentBigBrain.Lib.KeyedOrder

/-!
# Which stored journal entries survive

Of the entries of one id the freshest is kept, and of those that are kept and record the same the
freshest again, under the id of what it records. Which entries survive does not depend on the order
in which they are stored; only the order of the survivors does.
-/
namespace AgentBigBrain.Core

open AgentBigBrain.Js AgentBigBrain.Lib

section Survivors

variable (platform : JournalPlatform) {fallback : String}
  (candidates : List NormalizedJournalEntryCandidate)

/-- No entry of its id is fresher. -/
def FreshestOfId (candidate : NormalizedJournalEntryCandidate) : Prop :=
  candidate ∈ candidates ∧ ∀ other ∈ candidates,
    other.entry.journalEntryId = candidate.entry.journalEntryId →
      compareJournalEntryFreshness platform other.entry candidate.entry = true

/-- Nor is a freshest entry of another id that records the same. -/
def Survives (candidate : NormalizedJournalEntryCandidate) : Prop :=
  FreshestOfId platform candidates candidate ∧
    ∀ other, FreshestOfId platform candidates other →
      canonicalIdOf platform other = canonicalIdOf platform candidate →
        compareJournalEntryFreshness platform other.entry candidate.entry = true

/-- No freshest entry of another id records the same. -/
def Alone (candidate : NormalizedJournalEntryCandidate) : Prop :=
  ∀ other, FreshestOfId platform candidates other →
    canonicalIdOf platform other = canonicalIdOf platform candidate → other = candidate

/-- How a survivor is kept. -/
def KeptAs (original kept : NormalizedJournalEntryCandidate) : Prop :=
  (Alone platform candidates original ∧ kept = original) ∨
    (¬ Alone platform candidates original ∧
      kept = { original with entry := withCanonicalEntryId platform original.entry })

/-- What is read from storage: a time, and no watermark exactly where it is zero. -/
structure ReadEntries (platform : JournalPlatform) (fallback : String)
    (candidates : List NormalizedJournalEntryCandidate) : Prop where
  laws : JournalLaws platform fallback candidates
  times : TimesRead platform fallback candidates
  recovered : ∀ candidate ∈ candidates,
    candidate.watermarkRecovered = true ↔ candidate.entry.watermark = 0

variable {platform candidates} {left right : NormalizedJournalEntryCandidate}

lemma ReadEntries.freshness_iff (h : ReadEntries platform fallback candidates)
    (hleft : left ∈ candidates) (hright : right ∈ candidates) :
    compareJournalEntryFreshness platform left.entry right.entry = true ↔
      freshnessKey platform candidates left ≤ freshnessKey platform candidates right :=
  Core.freshness_iff h.laws h.times hleft hright

/-- Entries of one freshness differ in their ids at most. -/
lemma ReadEntries.standsFor_of_freshnessKey_eq (h : ReadEntries platform fallback candidates)
    (hleft : left ∈ candidates) (hright : right ∈ candidates)
    (hkey : freshnessKey platform candidates left = freshnessKey platform candidates right) :
    StandsFor left right := by
  have hwatermark : left.entry.watermark = right.entry.watermark :=
    congrArg (fun key => (ofLex key).1) hkey
  have hrank : canonicalRank platform candidates left = canonicalRank platform candidates right :=
    congrArg (fun key => (ofLex (ofLex (ofLex key).2).2).2) hkey
  have hsame := recordsSame_of_canonicalId_eq h.laws hleft hright
    ((canonicalRank_eq_iff h.laws hleft hright).mp hrank)
  have hrecovered : right.watermarkRecovered = left.watermarkRecovered := by
    rw [Bool.eq_iff_iff, h.recovered left hleft, h.recovered right hright, hwatermark]
  refine ⟨hrecovered, ?_⟩
  rw [RecordsSame, ← hwatermark] at hsame
  exact hsame.symm

lemma ReadEntries.eq_of_freshnessKey_eq (h : ReadEntries platform fallback candidates)
    (hleft : left ∈ candidates) (hright : right ∈ candidates)
    (hkey : freshnessKey platform candidates left = freshnessKey platform candidates right)
    (hid : left.entry.journalEntryId = right.entry.journalEntryId) : left = right := by
  obtain ⟨hrecovered, hentry⟩ := h.standsFor_of_freshnessKey_eq hleft hright hkey
  obtain ⟨entry, recovered⟩ := left
  obtain ⟨entry', recovered'⟩ := right
  dsimp only at hrecovered hentry hid
  rw [← hid] at hentry
  rw [hrecovered, hentry]

/-! ### The first map -/

lemma ReadEntries.keepsGreater (h : ReadEntries platform fallback candidates)
    (hleft : left ∈ candidates) (hright : right ∈ candidates) :
    KeepsGreater (freshnessKey platform candidates) id (candidatesById platform).choose left
      right := by
  have hfresher := h.freshness_iff hright hleft
  simp only [KeepsGreater, candidatesById, isFresher, id_eq]
  by_cases hle : compareJournalEntryFreshness platform right.entry left.entry = true
  · exact .inl ⟨by simp [hle], hfresher.mp hle⟩
  · exact .inr ⟨by simp [hle], le_of_not_ge fun hge => hle (hfresher.mpr hge)⟩

lemma ReadEntries.choose_mem (hleft : left ∈ candidates) (hright : right ∈ candidates) :
    (candidatesById platform).choose left right ∈ candidates := by
  simp only [candidatesById]
  split_ifs
  · exact hright
  · exact hleft

/-- The first map holds the freshest entry of each id. -/
theorem ReadEntries.mem_collect_iff (h : ReadEntries platform fallback candidates)
    {candidate : NormalizedJournalEntryCandidate} :
    candidate ∈ (candidatesById platform).collect [] candidates ↔
      FreshestOfId platform candidates candidate := by
  let byId := candidatesById platform
  have hdistinct : byId.Distinct (byId.collect [] candidates) :=
    byId.distinct_collect List.nodup_nil
  have hfreshest : ∀ kept ∈ byId.collect [] candidates,
      FreshestOfId platform candidates kept := by
    intro kept hkept
    have hgreatest : GreatestOf (freshnessKey platform candidates)
        ((candidates.filter fun x => byId.key x = byId.key kept).map id) (id kept) :=
      byId.greatestOf_find_collect
        (fun x y (hx : x ∈ candidates) hy => ReadEntries.choose_mem hx hy)
        (fun x y hx hy => h.keepsGreater hx hy) (fun x hx => hx)
        (byId.find_eq_some_of_mem hdistinct hkept)
    rw [List.map_id] at hgreatest
    have hmem := List.mem_of_mem_filter hgreatest.mem
    refine ⟨hmem, fun other hother hid => (h.freshness_iff hother hmem).mpr ?_⟩
    exact hgreatest.le other (List.mem_filter.mpr ⟨hother, decide_eq_true hid⟩)
  constructor
  · exact hfreshest candidate
  · intro hcandidate
    have hkey : byId.key candidate ∈ (byId.collect [] candidates).map byId.key :=
      (byId.mem_keys_collect [] candidates).mpr (.inr (List.mem_map_of_mem hcandidate.1))
    obtain ⟨kept, hkept, hid⟩ := List.mem_map.mp hkey
    have hother := hfreshest kept hkept
    have hle := (h.freshness_iff hother.1 hcandidate.1).mp (hcandidate.2 kept hother.1 hid)
    have hge := (h.freshness_iff hcandidate.1 hother.1).mp
      (hother.2 candidate hcandidate.1 hid.symm)
    rw [← h.eq_of_freshnessKey_eq hother.1 hcandidate.1 (le_antisymm hle hge) hid]
    exact hkept

/-! ### The second map -/

/-- The groups of the second map. -/
def canonicalGroups (platform : JournalPlatform)
    (candidates : List NormalizedJournalEntryCandidate) : List CanonicalGroup :=
  (groupsByCanonicalPayload platform).collect []
    (((candidatesById platform).collect [] candidates).map fun candidate => ⟨candidate, 1⟩)

lemma dedupeJournalEntries_eq (platform : JournalPlatform)
    (candidates : List NormalizedJournalEntryCandidate) :
    dedupeJournalEntries platform candidates =
      (canonicalGroups platform candidates).map (representative platform) := rfl

lemma canonicalGroups_distinct (platform : JournalPlatform)
    (candidates : List NormalizedJournalEntryCandidate) :
    (groupsByCanonicalPayload platform).Distinct (canonicalGroups platform candidates) :=
  (groupsByCanonicalPayload platform).distinct_collect List.nodup_nil

lemma foldl_duplicateCount (first : CanonicalGroup) (rest : List CanonicalGroup) :
    (rest.foldl (groupsByCanonicalPayload platform).choose first).duplicateCount =
      first.duplicateCount + rest.length := by
  induction rest generalizing first with
  | nil => rfl
  | cons group rest ih =>
      rw [List.foldl_cons, ih, List.length_cons]
      change first.duplicateCount + 1 + rest.length = _
      omega

lemma filter_groups (kept : List NormalizedJournalEntryCandidate) (id : String) :
    ((kept.map fun candidate => (⟨candidate, 1⟩ : CanonicalGroup)).filter fun group =>
        (groupsByCanonicalPayload platform).key group = id) =
      (kept.filter fun candidate => canonicalIdOf platform candidate = id).map
        fun candidate => ⟨candidate, 1⟩ :=
  List.filter_map

/-- A group counts the freshest entries that record what it records. -/
lemma duplicateCount_eq {group : CanonicalGroup} (h : group ∈ canonicalGroups platform candidates) :
    group.duplicateCount =
      (((candidatesById platform).collect [] candidates).filter fun candidate =>
        canonicalIdOf platform candidate = canonicalIdOf platform group.candidate).length := by
  have hfound := (groupsByCanonicalPayload platform).find_eq_some_of_mem
    (canonicalGroups_distinct platform candidates) h
  obtain ⟨first, rest, hwritten, hgroup⟩ :=
    (groupsByCanonicalPayload platform).find_collect_nil hfound
  rw [filter_groups] at hwritten
  have hones : first.duplicateCount = 1 := by
    have hfirst : first ∈ first :: rest := List.mem_cons_self
    rw [← hwritten] at hfirst
    obtain ⟨candidate, -, rfl⟩ := List.mem_map.mp hfirst
    rfl
  have hlength := congrArg List.length hwritten
  rw [List.length_map, List.length_cons] at hlength
  rw [← hgroup, foldl_duplicateCount, hones, hgroup]
  exact (Nat.add_comm 1 _).trans hlength.symm

/-- The entry of a group survives. -/
theorem ReadEntries.survives_of_group (h : ReadEntries platform fallback candidates)
    {group : CanonicalGroup} (hgroup : group ∈ canonicalGroups platform candidates) :
    Survives platform candidates group.candidate := by
  let groups := groupsByCanonicalPayload platform
  let kept := (candidatesById platform).collect [] candidates
  have hmerge : ∀ x y : CanonicalGroup, x.candidate ∈ candidates → y.candidate ∈ candidates →
      KeepsGreater (freshnessKey platform candidates) CanonicalGroup.candidate groups.choose x y :=
    fun x y hx hy => h.keepsGreater hx hy
  have hsub : ∀ x ∈ kept, x ∈ candidates := fun x hx => (h.mem_collect_iff.mp hx).1
  have hgreatest : GreatestOf (freshnessKey platform candidates)
      (((kept.map fun candidate => (⟨candidate, 1⟩ : CanonicalGroup)).filter fun x =>
        groups.key x = groups.key group).map CanonicalGroup.candidate) group.candidate := by
    refine groups.greatestOf_find_collect
      (fun x y (hx : x.candidate ∈ candidates) hy => ReadEntries.choose_mem hx hy) hmerge ?_
      (groups.find_eq_some_of_mem (canonicalGroups_distinct platform candidates) hgroup)
    intro x hx
    obtain ⟨candidate, hcandidate, rfl⟩ := List.mem_map.mp hx
    exact hsub candidate hcandidate
  have hlist : ((kept.map fun candidate => (⟨candidate, 1⟩ : CanonicalGroup)).filter fun x =>
      groups.key x = groups.key group).map CanonicalGroup.candidate =
        kept.filter fun candidate =>
          canonicalIdOf platform candidate = canonicalIdOf platform group.candidate := by
    rw [filter_groups, List.map_map]
    exact List.map_id _
  rw [hlist] at hgreatest
  have hmem := List.mem_of_mem_filter hgreatest.mem
  refine ⟨h.mem_collect_iff.mp hmem, fun other hother hid => ?_⟩
  refine (h.freshness_iff hother.1 (hsub _ hmem)).mpr (hgreatest.le other ?_)
  exact List.mem_filter.mpr ⟨h.mem_collect_iff.mpr hother, decide_eq_true hid⟩

lemma ReadEntries.alone_iff (h : ReadEntries platform fallback candidates)
    {group : CanonicalGroup} (hgroup : group ∈ canonicalGroups platform candidates) :
    Alone platform candidates group.candidate ↔ group.duplicateCount ≤ 1 := by
  let kept := (candidatesById platform).collect [] candidates
  let same := kept.filter fun candidate =>
    canonicalIdOf platform candidate = canonicalIdOf platform group.candidate
  have hnodup : same.Nodup := by
    have hdistinct : (candidatesById platform).Distinct kept :=
      (candidatesById platform).distinct_collect List.nodup_nil
    exact (List.Nodup.of_map _ hdistinct).filter _
  have hself : group.candidate ∈ same :=
    List.mem_filter.mpr ⟨h.mem_collect_iff.mpr (h.survives_of_group hgroup).1, by simp⟩
  have hmem : ∀ other, other ∈ same ↔ FreshestOfId platform candidates other ∧
      canonicalIdOf platform other = canonicalIdOf platform group.candidate := by
    intro other
    rw [List.mem_filter, h.mem_collect_iff, decide_eq_true_eq]
  rw [duplicateCount_eq hgroup]
  constructor
  · intro halone
    have hsub : same ⊆ [group.candidate] := by
      intro other hother
      obtain ⟨hfreshest, hid⟩ := (hmem other).mp hother
      exact List.mem_singleton.mpr (halone other hfreshest hid)
    exact (List.subperm_of_subset hnodup hsub).length_le
  · intro hcount other hfreshest hid
    have hother : other ∈ same := (hmem other).mpr ⟨hfreshest, hid⟩
    by_contra hne
    have hpair : [other, group.candidate].Nodup := by simp [hne]
    have hsub : [other, group.candidate] ⊆ same := by simp [hother, hself]
    have hlength := (List.subperm_of_subset hpair hsub).length_le
    exact absurd (hlength.trans hcount) (by simp)

/-- A group is kept as its entry where that is alone, and else under its canonical id. -/
lemma ReadEntries.keptAs_representative (h : ReadEntries platform fallback candidates)
    {group : CanonicalGroup} (hgroup : group ∈ canonicalGroups platform candidates) :
    KeptAs platform candidates group.candidate (representative platform group) := by
  have halone := h.alone_iff hgroup
  unfold representative
  by_cases hcount : 1 < group.duplicateCount
  · rw [if_pos hcount]
    exact .inr ⟨fun h' => absurd (halone.mp h') (not_le.mpr hcount), rfl⟩
  · rw [if_neg hcount]
    exact .inl ⟨halone.mpr (not_lt.mp hcount), rfl⟩

lemma canonicalIdOf_standsFor (h : StandsFor left right) :
    canonicalIdOf platform right = canonicalIdOf platform left := by
  rw [canonicalIdOf, canonicalIdOf, h.2]
  rfl

/-- A kept entry stands for the survivor. -/
lemma KeptAs.standsFor (h : KeptAs platform candidates left right) : StandsFor left right := by
  rcases h with ⟨-, rfl⟩ | ⟨-, rfl⟩
  · exact ⟨rfl, rfl⟩
  · exact ⟨rfl, rfl⟩

/-- Survivors that record the same are kept as one entry. -/
lemma ReadEntries.keptAs_unique (h : ReadEntries platform fallback candidates)
    (hleft : Survives platform candidates left) (hright : Survives platform candidates right)
    (hids : canonicalIdOf platform left = canonicalIdOf platform right)
    {kept kept' : NormalizedJournalEntryCandidate} (hkept : KeptAs platform candidates left kept)
    (hkept' : KeptAs platform candidates right kept') : kept = kept' := by
  have hle := (h.freshness_iff hleft.1.1 hright.1.1).mp (hright.2 left hleft.1 hids)
  have hge := (h.freshness_iff hright.1.1 hleft.1.1).mp (hleft.2 right hright.1 hids.symm)
  have hstands := h.standsFor_of_freshnessKey_eq hleft.1.1 hright.1.1 (le_antisymm hle hge)
  by_cases halone : Alone platform candidates left
  · have hsame : right = left := halone right hright.1 hids.symm
    rw [hsame] at hkept'
    have hleftKept : ∀ {x}, KeptAs platform candidates left x → x = left := fun hx =>
      (hx.resolve_right fun hcrowd => hcrowd.1 halone).2
    rw [hleftKept hkept, hleftKept hkept']
  · have hcrowd : ¬ Alone platform candidates right := by
      intro halone'
      have hsame : left = right := halone' left hleft.1 hids
      rw [hsame] at halone
      exact halone halone'
    have hentries : withCanonicalEntryId platform right.entry =
        withCanonicalEntryId platform left.entry := by
      unfold withCanonicalEntryId
      rw [← canonicalIdOf, ← canonicalIdOf, ← hids, hstands.2]
    rw [(hkept.resolve_left fun h' => halone h'.1).2,
      (hkept'.resolve_left fun h' => hcrowd h'.1).2, hstands.1, hentries]

/-- What is left after both maps: every survivor, once for what it records. -/
theorem ReadEntries.mem_dedupe_iff (h : ReadEntries platform fallback candidates)
    {kept : NormalizedJournalEntryCandidate} :
    kept ∈ dedupeJournalEntries platform candidates ↔
      ∃ original, Survives platform candidates original ∧
        KeptAs platform candidates original kept := by
  rw [dedupeJournalEntries_eq]
  constructor
  · intro hkept
    obtain ⟨group, hgroup, rfl⟩ := List.mem_map.mp hkept
    exact ⟨group.candidate, h.survives_of_group hgroup, h.keptAs_representative hgroup⟩
  · rintro ⟨original, hsurvives, hkept⟩
    let groups := groupsByCanonicalPayload platform
    have hkey : canonicalIdOf platform original ∈
        (canonicalGroups platform candidates).map groups.key := by
      refine (groups.mem_keys_collect [] _).mpr (.inr ?_)
      have hmem := h.mem_collect_iff.mpr hsurvives.1
      exact List.mem_map.mpr ⟨⟨original, 1⟩, List.mem_map_of_mem hmem, rfl⟩
    obtain ⟨group, hgroup, hid⟩ := List.mem_map.mp hkey
    refine List.mem_map.mpr ⟨group, hgroup, ?_⟩
    exact h.keptAs_unique (h.survives_of_group hgroup) hsurvives hid
      (h.keptAs_representative hgroup) hkept

/-- What is left records different things. -/
theorem ReadEntries.canonicalIdsDistinct_dedupe (h : ReadEntries platform fallback candidates) :
    CanonicalIdsDistinct platform (dedupeJournalEntries platform candidates) := by
  have hkeys : (dedupeJournalEntries platform candidates).map (canonicalIdOf platform) =
      (canonicalGroups platform candidates).map (groupsByCanonicalPayload platform).key := by
    rw [dedupeJournalEntries_eq, List.map_map]
    refine List.map_congr_left fun group hgroup => ?_
    exact canonicalIdOf_standsFor (h.keptAs_representative hgroup).standsFor
  rw [CanonicalIdsDistinct, hkeys]
  exact canonicalGroups_distinct platform candidates

/-! ### The order of storage -/

variable {others : List NormalizedJournalEntryCandidate}

lemma ReadEntries.of_perm (h : ReadEntries platform fallback candidates)
    (hperm : candidates.Perm others) : ReadEntries platform fallback others where
  laws :=
    { h.laws with
      digests_apart := fun left hleft right hright => h.laws.digests_apart left
        (hperm.mem_iff.mpr hleft) right (hperm.mem_iff.mpr hright) }
  times candidate hcandidate := h.times candidate (hperm.mem_iff.mpr hcandidate)
  recovered candidate hcandidate := h.recovered candidate (hperm.mem_iff.mpr hcandidate)

lemma freshestOfId_perm (hperm : candidates.Perm others) :
    FreshestOfId platform candidates = FreshestOfId platform others := by
  funext candidate
  simp only [FreshestOfId, hperm.mem_iff]

lemma survives_perm (hperm : candidates.Perm others) :
    Survives platform candidates = Survives platform others := by
  funext candidate
  simp only [Survives, freshestOfId_perm hperm]

lemma keptAs_perm (hperm : candidates.Perm others) :
    KeptAs platform candidates = KeptAs platform others := by
  funext original kept
  simp only [KeptAs, Alone, freshestOfId_perm hperm]

/-- The same entries are left in whatever order they are stored. -/
theorem ReadEntries.dedupe_perm (h : ReadEntries platform fallback candidates)
    (hperm : candidates.Perm others) :
    (dedupeJournalEntries platform candidates).Perm (dedupeJournalEntries platform others) := by
  have h' := h.of_perm hperm
  refine (List.perm_ext_iff_of_nodup (List.Nodup.of_map _ h.canonicalIdsDistinct_dedupe)
    (List.Nodup.of_map _ h'.canonicalIdsDistinct_dedupe)).mpr fun kept => ?_
  rw [h.mem_dedupe_iff, h'.mem_dedupe_iff, survives_perm hperm, keptAs_perm hperm]

/-- Survivors that are stored first are left in their order. -/
lemma ReadEntries.dedupe_of_front {front rest : List NormalizedJournalEntryCandidate}
    (h : ReadEntries platform fallback (front ++ rest))
    (hsurvive : ∀ candidate ∈ front, Survives platform (front ++ rest) candidate)
    (hdistinct : CanonicalIdsDistinct platform front) :
    front.map (canonicalIdOf platform) <+:
      (dedupeJournalEntries platform (front ++ rest)).map (canonicalIdOf platform) := by
  let byId := candidatesById platform
  let groups := groupsByCanonicalPayload platform
  -- Both maps keep the survivors in front; their ids differ as what they record does.
  have hids : byId.Distinct front := by
    refine List.pairwise_map.mpr ?_
    have hne : front.Pairwise fun x y => canonicalIdOf platform x ≠ canonicalIdOf platform y :=
      List.pairwise_map.mp hdistinct
    refine hne.imp_of_mem fun {x y} hx hy hxy hid => hxy ?_
    have hle := (h.freshness_iff (hsurvive x hx).1.1 (hsurvive y hy).1.1).mp
      ((hsurvive y hy).1.2 x (hsurvive x hx).1.1 hid)
    have hge := (h.freshness_iff (hsurvive y hy).1.1 (hsurvive x hx).1.1).mp
      ((hsurvive x hx).1.2 y (hsurvive y hy).1.1 hid.symm)
    rw [h.eq_of_freshnessKey_eq (hsurvive x hx).1.1 (hsurvive y hy).1.1 (le_antisymm hle hge) hid]
  have hkept : ∀ y ∈ front, ∀ x ∈ rest, byId.key y = byId.key x → byId.choose y x = y := by
    intro y hy x hx hid
    have hfresh := (hsurvive y hy).1.2 x (List.mem_append_right front hx) hid.symm
    simp [byId, candidatesById, isFresher, hfresh]
  obtain ⟨back, hback⟩ := byId.collect_append_of_kept [] hkept
  rw [List.append_nil] at hback
  have hfirst : byId.collect [] (front ++ rest) = front ++ back := by
    rw [KeyedMerge.collect_append, byId.collect_nil_of_distinct hids, hback]
  have hgroups : groups.collect [] (front.map fun candidate => ⟨candidate, 1⟩) =
      front.map fun candidate => ⟨candidate, 1⟩ := by
    refine groups.collect_nil_of_distinct ?_
    rw [KeyedMerge.Distinct, List.map_map]
    exact hdistinct
  have hsecond : canonicalGroups platform (front ++ rest) =
      groups.collect (front.map fun candidate => ⟨candidate, 1⟩)
        (back.map fun candidate => ⟨candidate, 1⟩) := by
    rw [canonicalGroups, hfirst, List.map_append, KeyedMerge.collect_append, hgroups]
  have hleads := groups.keys_prefix_collect (front.map fun candidate => ⟨candidate, 1⟩)
    (back.map fun candidate => ⟨candidate, 1⟩)
  rw [← hsecond, List.map_map] at hleads
  have hkeys : (dedupeJournalEntries platform (front ++ rest)).map (canonicalIdOf platform) =
      (canonicalGroups platform (front ++ rest)).map groups.key := by
    rw [dedupeJournalEntries_eq, List.map_map]
    refine List.map_congr_left fun group hgroup => ?_
    exact canonicalIdOf_standsFor (h.keptAs_representative hgroup).standsFor
  rw [hkeys]
  exact hleads

/-- The stored entries can be brought in an order in which the survivors are left in any given
order. -/
theorem ReadEntries.exists_order (h : ReadEntries platform fallback candidates)
    {survivors : List NormalizedJournalEntryCandidate}
    (hperm : survivors.Perm (dedupeJournalEntries platform candidates)) :
    ∃ front rest, candidates.Perm (front ++ rest) ∧
      dedupeJournalEntries platform (front ++ rest) = survivors := by
  have hkept : ∀ kept ∈ survivors, ∃ original, Survives platform candidates original ∧
      KeptAs platform candidates original kept :=
    fun kept hmem => h.mem_dedupe_iff.mp (hperm.mem_iff.mp hmem)
  choose! original hsurvive hkeptAs using hkept
  have hids : (survivors.map original).map (canonicalIdOf platform) =
      survivors.map (canonicalIdOf platform) := by
    rw [List.map_map]
    refine List.map_congr_left fun kept hmem => ?_
    exact (canonicalIdOf_standsFor (hkeptAs kept hmem).standsFor).symm
  have hsurvivors : CanonicalIdsDistinct platform survivors :=
    (hperm.map _).nodup_iff.mpr h.canonicalIdsDistinct_dedupe
  have hdistinct : CanonicalIdsDistinct platform (survivors.map original) := by
    rw [CanonicalIdsDistinct, hids]
    exact hsurvivors
  have hsub : survivors.map original ⊆ candidates := by
    intro candidate hcandidate
    obtain ⟨kept, hmem, rfl⟩ := List.mem_map.mp hcandidate
    exact (hsurvive kept hmem).1.1
  obtain ⟨rest, hrest⟩ := exists_perm_append_of_subset (List.Nodup.of_map _ hdistinct) hsub
  refine ⟨survivors.map original, rest, hrest, ?_⟩
  have hleft := (hperm.trans (h.dedupe_perm hrest)).symm
  have hleads := (h.of_perm hrest).dedupe_of_front (by
    intro candidate hcandidate
    obtain ⟨kept, hmem, rfl⟩ := List.mem_map.mp hcandidate
    rw [← survives_perm hrest]
    exact hsurvive kept hmem) hdistinct
  have hlength := (hleft.map (canonicalIdOf platform)).length_eq
  rw [hids] at hleads
  exact eq_of_perm_of_map_eq hleft (hleads.eq_of_length hlength.symm).symm hsurvivors

end Survivors

end AgentBigBrain.Core
