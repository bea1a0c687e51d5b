import AgentBigBrain.Core.ProfileEpisodes
import AgentBigBrain.Lib.GreatestOf
import AgentBigBrain.Lib.KeyedSelection

/-!
# What a consolidation keeps

The records of one key are folded into one. Each field of the result is a greatest one of theirs
by some measure, or their union, so the result depends on their order exactly where several are
greatest: where two were updated last, where two texts are longest, or where the collation ties
different texts. The time of closing is the exception that the merge makes up for closed records
that have none.
-/
namespace AgentBigBrain.Core

open AgentBigBrain.Js AgentBigBrain.Lib

variable (platform : BridgePlatform) (hostSort : HostSort)

/-! ## Times -/

def IsIsoTime (text : String) : Prop :=
  text ≠ "" ∧ ∃ ms, platform.isoString ms = some text

def isoTimeOf (text : String) : ℤ :=
  (platform.dateParse text).getD 0

section Times

variable {platform} {left right : String}

lemma IsIsoTime.dateParse (h : IsIsoTime platform left) :
    platform.dateParse left = some (isoTimeOf platform left) := by
  obtain ⟨-, ms, hms⟩ := h
  simp [isoTimeOf, platform.dateParse_isoString ms left hms]

lemma IsIsoTime.eq_of_timeOf (hleft : IsIsoTime platform left) (hright : IsIsoTime platform right)
    (h : isoTimeOf platform left = isoTimeOf platform right) : left = right := by
  obtain ⟨-, leftMs, hleft⟩ := hleft
  obtain ⟨-, rightMs, hright⟩ := hright
  have hsame : leftMs = rightMs := by
    simpa [isoTimeOf, platform.dateParse_isoString _ _ hleft,
      platform.dateParse_isoString _ _ hright] using h
  subst hsame
  exact Option.some.inj (hleft.symm.trans hright)

lemma isNoEarlier_iff (hleft : IsIsoTime platform left) (hright : IsIsoTime platform right) :
    isNoEarlier platform left right = true ↔ isoTimeOf platform right ≤ isoTimeOf platform left := by
  simp [isNoEarlier, hleft.dateParse, hright.dateParse]

lemma IsIsoTime.maxIso (hleft : IsIsoTime platform left) (hright : IsIsoTime platform right) :
    (maxIso platform left right = left ∧ isoTimeOf platform right ≤ isoTimeOf platform left) ∨
      (maxIso platform left right = right ∧ isoTimeOf platform left ≤ isoTimeOf platform right) := by
  unfold Core.maxIso
  split_ifs with h
  · exact Or.inl ⟨rfl, (isNoEarlier_iff hleft hright).mp h⟩
  · have hless := mt (isNoEarlier_iff hleft hright).mpr h
    exact Or.inr ⟨rfl, by omega⟩

end Times

/-- The times of the record are ones that `toISOString` writes. -/
structure DatedEpisode (episode : ProfileEpisodeRecord) : Prop where
  observedAt : IsIsoTime platform episode.observedAt
  lastMentionedAt : IsIsoTime platform episode.lastMentionedAt
  lastUpdatedAt : IsIsoTime platform episode.lastUpdatedAt
  resolvedAt : ∀ text ∈ episode.resolvedAt, IsIsoTime platform text

/-! ## The fields of a merge -/

section Fields

variable {platform} {left right : ProfileEpisodeRecord}

/-- What is taken from the record updated last. -/
structure EpisodeUpdate where
  lastUpdatedAt : String
  id : String
  sourceTaskId : String
  source : String
  sourceKind : ProfileEpisodeSourceKind
  deriving DecidableEq

def ProfileEpisodeRecord.update (episode : ProfileEpisodeRecord) : EpisodeUpdate :=
  ⟨episode.lastUpdatedAt, episode.id, episode.sourceTaskId, episode.source, episode.sourceKind⟩

def normalTitle (episode : ProfileEpisodeRecord) : String :=
  normalizeProfileValue episode.title

def normalSummary (episode : ProfileEpisodeRecord) : String :=
  normalizeProfileValue episode.summary

lemma keepsGreater_update (hleft : DatedEpisode platform left)
    (hright : DatedEpisode platform right) :
    KeepsGreater (fun update => isoTimeOf platform update.lastUpdatedAt) ProfileEpisodeRecord.update
      (mergeConsolidatedEpisodeRecords platform) left right := by
  have hmerge : (mergeConsolidatedEpisodeRecords platform left right).update =
      if isNoEarlier platform left.lastUpdatedAt right.lastUpdatedAt then left.update
      else right.update := by
    simp only [mergeConsolidatedEpisodeRecords, ProfileEpisodeRecord.update, maxIso]
    split_ifs <;> rfl
  have hiff := isNoEarlier_iff hleft.lastUpdatedAt hright.lastUpdatedAt
  unfold KeepsGreater
  rw [hmerge]
  split_ifs with h
  · exact Or.inl ⟨rfl, hiff.mp h⟩
  · have hless := mt hiff.mpr h
    exact Or.inr ⟨rfl, by
      simp only [ProfileEpisodeRecord.update]
      omega⟩

lemma normalize_chooseLongerValue (left right : String) :
    (normalizeProfileValue (chooseLongerValue left right) = normalizeProfileValue left ∧
        utf16Length (normalizeProfileValue right) ≤ utf16Length (normalizeProfileValue left)) ∨
      (normalizeProfileValue (chooseLongerValue left right) = normalizeProfileValue right ∧
        utf16Length (normalizeProfileValue left) ≤ utf16Length (normalizeProfileValue right)) := by
  have hempty : utf16Length "" = 0 := rfl
  unfold chooseLongerValue
  dsimp only
  split_ifs with hleft hright hlonger
  · exact Or.inr ⟨normalizeProfileValue_idem right, by rw [hleft, hempty]; omega⟩
  · exact Or.inl ⟨normalizeProfileValue_idem left, by rw [hright, hempty]; omega⟩
  · exact Or.inr ⟨normalizeProfileValue_idem right, hlonger⟩
  · exact Or.inl ⟨normalizeProfileValue_idem left, by omega⟩

lemma keepsGreater_title (left right : ProfileEpisodeRecord) :
    KeepsGreater utf16Length normalTitle (mergeConsolidatedEpisodeRecords platform) left right := by
  have hmerge : normalTitle (mergeConsolidatedEpisodeRecords platform left right) =
      normalizeProfileValue (chooseLongerValue left.title right.title) := by
    simp only [normalTitle, mergeConsolidatedEpisodeRecords]
  unfold KeepsGreater
  rw [hmerge]
  exact normalize_chooseLongerValue left.title right.title

lemma keepsGreater_summary (left right : ProfileEpisodeRecord) :
    KeepsGreater utf16Length normalSummary (mergeConsolidatedEpisodeRecords platform) left right := by
  have hmerge : normalSummary (mergeConsolidatedEpisodeRecords platform left right) =
      normalizeProfileValue (chooseLongerValue left.summary right.summary) := by
    simp only [normalSummary, mergeConsolidatedEpisodeRecords]
  unfold KeepsGreater
  rw [hmerge]
  exact normalize_chooseLongerValue left.summary right.summary

lemma keepsGreater_status (left right : ProfileEpisodeRecord) :
    KeepsGreater EPISODE_STATUS_PRIORITY ProfileEpisodeRecord.status
      (mergeConsolidatedEpisodeRecords platform) left right := by
  unfold KeepsGreater mergeConsolidatedEpisodeRecords
  dsimp only
  split_ifs with h
  · exact Or.inl ⟨rfl, h⟩
  · exact Or.inr ⟨rfl, by omega⟩

lemma keepsGreater_confidence (left right : ProfileEpisodeRecord) :
    KeepsGreater (fun confidence : ℚ => confidence) ProfileEpisodeRecord.confidence
      (mergeConsolidatedEpisodeRecords platform) left right := by
  rcases le_total left.confidence right.confidence with h | h
  · exact Or.inr ⟨max_eq_right h, h⟩
  · exact Or.inl ⟨max_eq_left h, h⟩

lemma keepsGreater_observedAt (hleft : DatedEpisode platform left)
    (hright : DatedEpisode platform right) :
    KeepsGreater (fun text => -isoTimeOf platform text) ProfileEpisodeRecord.observedAt
      (mergeConsolidatedEpisodeRecords platform) left right := by
  have hiff := isNoEarlier_iff hright.observedAt hleft.observedAt
  unfold KeepsGreater mergeConsolidatedEpisodeRecords earlierIso
  dsimp only
  by_cases h : isNoEarlier platform right.observedAt left.observedAt = true
  · rw [if_pos h]
    have hle := hiff.mp h
    exact Or.inl ⟨rfl, by omega⟩
  · rw [if_neg h]
    have hless := mt hiff.mpr h
    exact Or.inr ⟨rfl, by omega⟩

lemma keepsGreater_lastMentionedAt (hleft : DatedEpisode platform left)
    (hright : DatedEpisode platform right) :
    KeepsGreater (isoTimeOf platform) ProfileEpisodeRecord.lastMentionedAt
      (mergeConsolidatedEpisodeRecords platform) left right :=
  hleft.lastMentionedAt.maxIso hright.lastMentionedAt

lemma isTerminal_merge (left right : ProfileEpisodeRecord) :
    (mergeConsolidatedEpisodeRecords platform left right).isTerminal =
      (left.isTerminal && right.isTerminal) := by
  have hstatus : (mergeConsolidatedEpisodeRecords platform left right).status =
      if EPISODE_STATUS_PRIORITY right.status ≤ EPISODE_STATUS_PRIORITY left.status then left.status
      else right.status := rfl
  unfold ProfileEpisodeRecord.isTerminal
  rw [hstatus]
  cases left.status <;> cases right.status <;> rfl

lemma resolvedAt_merge (hopen : ¬ (left.isTerminal = true ∧ right.isTerminal = true)) :
    (mergeConsolidatedEpisodeRecords platform left right).resolvedAt = none := by
  have hterminal := @isTerminal_merge platform left right
  have hfalse : (left.isTerminal && right.isTerminal) = false := by
    rcases Bool.eq_false_or_eq_true (left.isTerminal && right.isTerminal) with h | h
    · exact absurd (by simpa using h) hopen
    · exact h
  rw [hfalse] at hterminal
  unfold ProfileEpisodeRecord.isTerminal mergeConsolidatedEpisodeRecords at hterminal
  dsimp only at hterminal
  unfold mergeConsolidatedEpisodeRecords
  dsimp only
  rw [hterminal]
  rfl

/-- The closing time of two closed records; where neither has one it is made up. -/
lemma resolvedAt_merge_of_closed (hleft : left.isTerminal = true) (hright : right.isTerminal = true) :
    (mergeConsolidatedEpisodeRecords platform left right).resolvedAt =
      some (latestNonNullIso platform left.resolvedAt right.resolvedAt
        (mergeConsolidatedEpisodeRecords platform left right).lastUpdatedAt) := by
  have hterminal := @isTerminal_merge platform left right
  rw [hleft, hright] at hterminal
  unfold ProfileEpisodeRecord.isTerminal at hterminal
  have hupdated : (mergeConsolidatedEpisodeRecords platform left right).lastUpdatedAt =
      (if isNoEarlier platform left.lastUpdatedAt right.lastUpdatedAt then left
        else right).lastUpdatedAt := by
    simp only [mergeConsolidatedEpisodeRecords, maxIso]
    split_ifs <;> rfl
  rw [hupdated]
  simp only [mergeConsolidatedEpisodeRecords] at hterminal ⊢
  rw [hterminal]
  rfl

section Latest

variable {a b : Option String} {fallback : String}

lemma latestNonNullIso_left {text : String} (ha : a = some text) (hb : b = none) :
    latestNonNullIso platform a b fallback = text := by
  subst ha hb
  unfold latestNonNullIso
  split
  · rename_i hnone
    simp at hnone
  · rfl

lemma latestNonNullIso_right {text : String} (ha : a = none) (hb : b = some text) :
    latestNonNullIso platform a b fallback = text := by
  subst ha hb
  rfl

lemma latestNonNullIso_both {left right : String} (ha : a = some left) (hb : b = some right)
    (hleft : left ≠ "") (hright : right ≠ "") :
    latestNonNullIso platform a b fallback = maxIso platform left right := by
  subst ha hb
  simp [latestNonNullIso, Option.filter, hleft, hright]

end Latest

/-- The closing time of two closed records is the latest one they have. -/
lemma closing_merge (hdated : DatedEpisode platform left ∧ DatedEpisode platform right)
    (hclosed : left.isTerminal = true ∧ right.isTerminal = true) :
    (left.resolvedAt = none ∧ right.resolvedAt = none ∧
        (mergeConsolidatedEpisodeRecords platform left right).resolvedAt =
          some (mergeConsolidatedEpisodeRecords platform left right).lastUpdatedAt) ∨
      ∃ closing, (mergeConsolidatedEpisodeRecords platform left right).resolvedAt = some closing ∧
        GreatestOf (isoTimeOf platform) (left.resolvedAt.toList ++ right.resolvedAt.toList) closing := by
  rw [resolvedAt_merge_of_closed hclosed.1 hclosed.2]
  cases hleft : left.resolvedAt with
  | none =>
      cases hright : right.resolvedAt with
      | none => exact Or.inl ⟨rfl, rfl, rfl⟩
      | some text =>
          rw [latestNonNullIso_right rfl rfl]
          exact Or.inr ⟨text, rfl, by simp, by simp⟩
  | some leftText =>
      cases hright : right.resolvedAt with
      | none =>
          rw [latestNonNullIso_left rfl rfl]
          exact Or.inr ⟨leftText, rfl, by simp, by simp⟩
      | some rightText =>
          have hleftIso := hdated.1.resolvedAt leftText hleft
          have hrightIso := hdated.2.resolvedAt rightText hright
          rw [latestNonNullIso_both rfl rfl hleftIso.1 hrightIso.1]
          refine Or.inr ⟨_, rfl, ?_⟩
          rcases hleftIso.maxIso hrightIso with ⟨h, hle⟩ | ⟨h, hle⟩ <;> rw [h]
          · exact ⟨by simp, by simpa using hle⟩
          · exact ⟨by simp, by simpa using hle⟩

lemma DatedEpisode.merge (hleft : DatedEpisode platform left) (hright : DatedEpisode platform right) :
    DatedEpisode platform (mergeConsolidatedEpisodeRecords platform left right) := by
  have hupdated : IsIsoTime platform
      (mergeConsolidatedEpisodeRecords platform left right).lastUpdatedAt := by
    change IsIsoTime platform (maxIso platform left.lastUpdatedAt right.lastUpdatedAt)
    rcases hleft.lastUpdatedAt.maxIso hright.lastUpdatedAt with ⟨h, -⟩ | ⟨h, -⟩ <;> rw [h]
    · exact hleft.lastUpdatedAt
    · exact hright.lastUpdatedAt
  refine ⟨?_, ?_, hupdated, fun text htext => ?_⟩
  · rcases keepsGreater_observedAt hleft hright with ⟨h, -⟩ | ⟨h, -⟩ <;> rw [h]
    · exact hleft.observedAt
    · exact hright.observedAt
  · rcases keepsGreater_lastMentionedAt hleft hright with ⟨h, -⟩ | ⟨h, -⟩ <;> rw [h]
    · exact hleft.lastMentionedAt
    · exact hright.lastMentionedAt
  · by_cases hclosed : left.isTerminal = true ∧ right.isTerminal = true
    · rcases closing_merge ⟨hleft, hright⟩ hclosed with ⟨-, -, h⟩ | ⟨closing, h, hgreatest⟩
      · rw [Option.mem_def, h] at htext
        exact Option.some.inj htext ▸ hupdated
      · rw [Option.mem_def, h] at htext
        rcases List.mem_append.mp (Option.some.inj htext ▸ hgreatest.mem) with hmem | hmem
        · exact hleft.resolvedAt text (Option.mem_toList.mp hmem)
        · exact hright.resolvedAt text (Option.mem_toList.mp hmem)
    · rw [resolvedAt_merge hclosed] at htext
      cases htext

end Fields

/-! ## Folds -/

section Folds

variable {platform} {first : ProfileEpisodeRecord} {rest : List ProfileEpisodeRecord}

variable (platform) in
/-- The records of a key, folded in the order in which they stand. -/
def foldEpisodes (first : ProfileEpisodeRecord) (rest : List ProfileEpisodeRecord) :
    ProfileEpisodeRecord :=
  rest.foldl (mergeConsolidatedEpisodeRecords platform) first

lemma isTerminal_foldEpisodes (first : ProfileEpisodeRecord) (rest : List ProfileEpisodeRecord) :
    (foldEpisodes platform first rest).isTerminal = (first :: rest).all (·.isTerminal) := by
  unfold foldEpisodes
  induction rest generalizing first with
  | nil => simp
  | cons episode rest ih =>
      rw [List.foldl_cons, ih, List.all_cons, isTerminal_merge]
      simp [Bool.and_assoc]

/-- Closed records of which the first is dated keep the latest closing time. -/
lemma closing_foldl (hdated : ∀ episode ∈ first :: rest, DatedEpisode platform episode)
    (hclosed : ∀ episode ∈ first :: rest, episode.isTerminal = true) {closing : String}
    (hclosing : first.resolvedAt = some closing) :
    ∃ last, (foldEpisodes platform first rest).resolvedAt = some last ∧
      GreatestOf (isoTimeOf platform) (closing :: rest.filterMap (·.resolvedAt)) last := by
  unfold foldEpisodes
  induction rest generalizing first closing with
  | nil => exact ⟨closing, hclosing, by simp, by simp⟩
  | cons episode rest ih =>
      have hfirst := List.forall_mem_cons.mp hdated
      have hepisode := List.forall_mem_cons.mp hfirst.2
      have hterminal := List.forall_mem_cons.mp hclosed
      have hterminalRest := List.forall_mem_cons.mp hterminal.2
      have hmerged : (mergeConsolidatedEpisodeRecords platform first episode).isTerminal = true := by
        rw [isTerminal_merge, hterminal.1, hterminalRest.1]
        rfl
      rcases closing_merge ⟨hfirst.1, hepisode.1⟩ ⟨hterminal.1, hterminalRest.1⟩ with
        ⟨hnone, -, -⟩ | ⟨middle, hmiddle, hgreatest⟩
      · rw [hclosing] at hnone
        cases hnone
      · obtain ⟨last, hlast, hlatest⟩ := ih
          (List.forall_mem_cons.mpr ⟨hfirst.1.merge hepisode.1, hepisode.2⟩)
          (List.forall_mem_cons.mpr ⟨hmerged, hterminalRest.2⟩) hmiddle
        refine ⟨last, hlast, ?_⟩
        have hvalues : closing :: (episode :: rest).filterMap (·.resolvedAt) =
            (first.resolvedAt.toList ++ episode.resolvedAt.toList) ++
              rest.filterMap (·.resolvedAt) := by
          rw [hclosing]
          cases hcase : episode.resolvedAt <;> simp [hcase]
        rw [hvalues]
        refine ⟨?_, fun other hother => ?_⟩
        · rcases List.mem_cons.mp hlatest.mem with rfl | hmem
          · exact List.mem_append_left _ hgreatest.mem
          · exact List.mem_append_right _ hmem
        · rcases List.mem_append.mp hother with hmem | hmem
          · exact (hgreatest.le other hmem).trans (hlatest.le middle List.mem_cons_self)
          · exact hlatest.le other (List.mem_cons_of_mem _ hmem)

end Folds

/-! ## Lists of texts -/

section Texts

variable {platform} {xs ys : List String}

lemma mem_canonicalStringList {normalize : String → String} {text : String} :
    text ∈ canonicalStringList platform normalize xs ↔
      text ≠ "" ∧ ∃ value ∈ xs, normalize value = text := by
  simp only [canonicalStringList, Comparator.mem_sort, mem_uniqueValues, List.mem_filter,
    List.mem_map, decide_eq_true_eq]
  exact and_comm

/-- A list in its canonical form stays as it is. -/
lemma canonicalStringList_idem (xs : List String) :
    canonicalStringList platform normalizeProfileValue
        (canonicalStringList platform normalizeProfileValue xs) =
      canonicalStringList platform normalizeProfileValue xs := by
  set listed := canonicalStringList platform normalizeProfileValue xs with hlisted
  have hmem : ∀ text ∈ listed, text ≠ "" ∧ normalizeProfileValue text = text := by
    intro text htext
    obtain ⟨hne, value, -, rfl⟩ := mem_canonicalStringList.mp htext
    exact ⟨hne, normalizeProfileValue_idem value⟩
  have hmap : listed.map normalizeProfileValue = listed := by
    conv_rhs => rw [← List.map_id listed]
    exact List.map_congr_left fun text htext => (hmem text htext).2
  have hfilter : listed.filter (· ≠ "") = listed :=
    List.filter_eq_self.mpr fun text htext => by simpa using (hmem text htext).1
  have hnodup : listed.Nodup :=
    (platform.locale.sort_perm _).nodup_iff.mpr (nodup_uniqueValues _)
  have hsorted : platform.locale.sort listed = listed := Comparator.sort_sort _ _
  calc canonicalStringList platform normalizeProfileValue listed
      = platform.locale.sort (uniqueValues ((listed.map normalizeProfileValue).filter (· ≠ ""))) :=
        rfl
    _ = listed := by rw [hmap, hfilter, uniqueValues_of_nodup hnodup, hsorted]

/-- The collation ties no two different texts. -/
def Collated (platform : BridgePlatform) (texts : List String) : Prop :=
  ∀ left ∈ texts, ∀ right ∈ texts, platform.locale.le left right = true →
    platform.locale.le right left = true → left = right

lemma canonicalStringList_congr {texts : List String} (hcollated : Collated platform texts)
    (htexts : canonicalStringList platform normalizeProfileValue xs ⊆ texts)
    (hmem : ∀ text, text ∈ canonicalStringList platform normalizeProfileValue xs ↔
      text ∈ canonicalStringList platform normalizeProfileValue ys) :
    canonicalStringList platform normalizeProfileValue xs =
      canonicalStringList platform normalizeProfileValue ys := by
  have hperm : (uniqueValues ((xs.map normalizeProfileValue).filter (· ≠ ""))).Perm
      (uniqueValues ((ys.map normalizeProfileValue).filter (· ≠ ""))) := by
    refine (List.perm_ext_iff_of_nodup (nodup_uniqueValues _) (nodup_uniqueValues _)).mpr
      fun text => ?_
    simpa only [canonicalStringList, Comparator.mem_sort] using hmem text
  refine Comparator.sort_eq_of_perm _ hperm fun left hleft right hright => ?_
  exact hcollated left (htexts (Comparator.mem_sort _ |>.mpr hleft)) right
    (htexts (Comparator.mem_sort _ |>.mpr hright))

variable {field : ProfileEpisodeRecord → List String}
  (hmerge : ∀ left right, field (mergeConsolidatedEpisodeRecords platform left right) =
    canonicalStringList platform normalizeProfileValue (field left ++ field right))

include hmerge

lemma mem_foldEpisodes (first : ProfileEpisodeRecord) (rest : List ProfileEpisodeRecord)
    (text : String) :
    text ∈ canonicalStringList platform normalizeProfileValue
        (field (foldEpisodes platform first rest)) ↔
      ∃ episode ∈ first :: rest,
        text ∈ canonicalStringList platform normalizeProfileValue (field episode) := by
  unfold foldEpisodes
  induction rest generalizing first with
  | nil => simp
  | cons episode rest ih =>
      have hpair : text ∈ canonicalStringList platform normalizeProfileValue
          (field (mergeConsolidatedEpisodeRecords platform first episode)) ↔
          text ∈ canonicalStringList platform normalizeProfileValue (field first) ∨
            text ∈ canonicalStringList platform normalizeProfileValue (field episode) := by
        rw [hmerge, canonicalStringList_idem]
        simp only [mem_canonicalStringList, List.mem_append, or_and_right, exists_or, ← and_or_left]
      rw [List.foldl_cons, ih]
      simp only [List.exists_mem_cons_iff, hpair, or_assoc]

lemma list_foldEpisodes_normal (first next : ProfileEpisodeRecord)
    (rest : List ProfileEpisodeRecord) :
    canonicalStringList platform normalizeProfileValue
        (field (foldEpisodes platform first (next :: rest))) =
      field (foldEpisodes platform first (next :: rest)) := by
  unfold foldEpisodes
  rw [List.foldl_cons]
  induction rest generalizing first next with
  | nil => rw [List.foldl_nil, hmerge, canonicalStringList_idem]
  | cons episode rest ih => exact ih _ episode

/-- The texts a fold lists do not depend on the order of the records. -/
lemma list_foldEpisodes_perm {first other next last : ProfileEpisodeRecord}
    {rest others : List ProfileEpisodeRecord}
    (hperm : (first :: next :: rest).Perm (other :: last :: others))
    (hcollated : Collated platform
      ((first :: next :: rest).flatMap fun episode => (field episode).map normalizeProfileValue)) :
    field (foldEpisodes platform first (next :: rest)) =
      field (foldEpisodes platform other (last :: others)) := by
  rw [← list_foldEpisodes_normal hmerge, ← list_foldEpisodes_normal hmerge other]
  refine canonicalStringList_congr hcollated ?_ fun text => ?_
  · intro text htext
    obtain ⟨episode, hepisode, hmem⟩ := (mem_foldEpisodes hmerge first _ _).mp htext
    obtain ⟨-, source, hsource, hsame⟩ := mem_canonicalStringList.mp hmem
    exact List.mem_flatMap.mpr ⟨episode, hepisode, List.mem_map.mpr ⟨source, hsource, hsame⟩⟩
  · rw [mem_foldEpisodes hmerge, mem_foldEpisodes hmerge]
    exact exists_congr fun episode => and_congr_left fun _ => hperm.mem_iff

end Texts

/-! ## Duplicates that fold alike in every order -/

/-- The closing time that a fold of closed records keeps is one of theirs, or there are two. -/
def ClosingsAgree (group : List ProfileEpisodeRecord) : Prop :=
  (∃ episode ∈ group, episode.isTerminal = false) ∨
    (∀ episode ∈ group, ∀ other ∈ group, episode.resolvedAt = none → other.resolvedAt = none →
      episode = other) ∨
    group.length = 2 ∨
    ∃ closing ∈ group.filterMap (·.resolvedAt), ∀ episode ∈ group, episode.resolvedAt = none →
      isoTimeOf platform episode.lastUpdatedAt ≤ isoTimeOf platform closing

def listedTexts (episode : ProfileEpisodeRecord) : List String :=
  (episode.entityRefs ++ episode.openLoopRefs ++ episode.tags).map normalizeProfileValue

/-- Of the records of one key, those updated last agree on where they come from, the longest texts
are equal, and no two texts that differ are tied. -/
structure FoldsAlike (group : List ProfileEpisodeRecord) : Prop where
  latest : OneGreatest (fun update : EpisodeUpdate => isoTimeOf platform update.lastUpdatedAt)
    (group.map ProfileEpisodeRecord.update)
  titles : OneGreatest utf16Length (group.map normalTitle)
  summaries : OneGreatest utf16Length (group.map normalSummary)
  closings : ClosingsAgree platform group
  collated : Collated platform (group.flatMap listedTexts)

section Alike

variable {platform} {first other next last : ProfileEpisodeRecord}
  {rest others : List ProfileEpisodeRecord}

lemma closing_foldEpisodes
    (hdated : ∀ episode ∈ first :: next :: rest, DatedEpisode platform episode)
    (hnodup : (first :: next :: rest).Nodup)
    (hclosings : ClosingsAgree platform (first :: next :: rest))
    (hclosed : ∀ episode ∈ first :: next :: rest, episode.isTerminal = true) :
    ∃ closing, (foldEpisodes platform first (next :: rest)).resolvedAt = some closing ∧
      (GreatestOf (isoTimeOf platform) ((first :: next :: rest).filterMap (·.resolvedAt)) closing ∨
        ((first :: next :: rest).filterMap (·.resolvedAt) = [] ∧
          closing = (foldEpisodes platform first (next :: rest)).lastUpdatedAt)) := by
  have hfirst := List.forall_mem_cons.mp hdated
  have hnext := List.forall_mem_cons.mp hfirst.2
  have hterminal := List.forall_mem_cons.mp hclosed
  have hterminalNext := List.forall_mem_cons.mp hterminal.2
  set merged := mergeConsolidatedEpisodeRecords platform first next with hmerged
  have hmergedDated : DatedEpisode platform merged := hfirst.1.merge hnext.1
  have hmergedClosed : merged.isTerminal = true := by
    rw [hmerged, isTerminal_merge, hterminal.1, hterminalNext.1]
    rfl
  have hfold : ∀ {middle}, merged.resolvedAt = some middle →
      ∃ closing, (foldEpisodes platform first (next :: rest)).resolvedAt = some closing ∧
        GreatestOf (isoTimeOf platform) (middle :: rest.filterMap (·.resolvedAt)) closing :=
    fun hmiddle => closing_foldl (List.forall_mem_cons.mpr ⟨hmergedDated, hnext.2⟩)
      (List.forall_mem_cons.mpr ⟨hmergedClosed, hterminalNext.2⟩) hmiddle
  rcases closing_merge ⟨hfirst.1, hnext.1⟩ ⟨hterminal.1, hterminalNext.1⟩ with
    ⟨hfirstNone, hnextNone, hmiddle⟩ | ⟨middle, hmiddle, hgreatest⟩
  · -- The merge of the first two made a closing time up.
    obtain ⟨closing, hclosing, hlatest⟩ := hfold hmiddle
    refine ⟨closing, hclosing, ?_⟩
    have hvalues : (first :: next :: rest).filterMap (·.resolvedAt) =
        rest.filterMap (·.resolvedAt) := by
      simp [hfirstNone, hnextNone]
    rw [hvalues]
    rcases hclosings with ⟨episode, hepisode, hopen⟩ | honly | htwo | ⟨known, hknown, hlater⟩
    · rw [hclosed episode hepisode] at hopen
      cases hopen
    · have hsame := honly first List.mem_cons_self next
        (List.mem_cons_of_mem _ List.mem_cons_self) hfirstNone hnextNone
      exact absurd (hsame ▸ List.mem_cons_self) (List.nodup_cons.mp hnodup).1
    · have hrest : rest = [] := by simpa using htwo
      subst hrest
      obtain rfl : closing = merged.lastUpdatedAt := by simpa using hlatest.mem
      exact Or.inr ⟨rfl, rfl⟩
    · rw [hvalues] at hknown
      have hmade : isoTimeOf platform merged.lastUpdatedAt ≤ isoTimeOf platform known := by
        change isoTimeOf platform (maxIso platform first.lastUpdatedAt next.lastUpdatedAt) ≤ _
        rcases hfirst.1.lastUpdatedAt.maxIso hnext.1.lastUpdatedAt with ⟨h, -⟩ | ⟨h, -⟩ <;> rw [h]
        · exact hlater first List.mem_cons_self hfirstNone
        · exact hlater next (List.mem_cons_of_mem _ List.mem_cons_self) hnextNone
      have hle := hlatest.le known (List.mem_cons_of_mem _ hknown)
      refine Or.inl ⟨?_, fun value hvalue => hlatest.le value (List.mem_cons_of_mem _ hvalue)⟩
      rcases List.mem_cons.mp hlatest.mem with rfl | hmem
      · obtain ⟨episode, hepisode, hresolved⟩ := List.mem_filterMap.mp hknown
        have hknownIso : IsIsoTime platform known := (hnext.2 episode hepisode).resolvedAt known hresolved
        have hsame : merged.lastUpdatedAt = known :=
          hmergedDated.lastUpdatedAt.eq_of_timeOf hknownIso (le_antisymm hmade hle)
        exact hsame ▸ hknown
      · exact hmem
  · obtain ⟨closing, hclosing, hlatest⟩ := hfold hmiddle
    refine ⟨closing, hclosing, Or.inl ?_⟩
    have hvalues : (first :: next :: rest).filterMap (·.resolvedAt) =
        (first.resolvedAt.toList ++ next.resolvedAt.toList) ++ rest.filterMap (·.resolvedAt) := by
      cases hfirstCase : first.resolvedAt <;> cases hnextCase : next.resolvedAt <;>
        simp [hfirstCase, hnextCase]
    rw [hvalues]
    refine ⟨?_, fun value hvalue => ?_⟩
    · rcases List.mem_cons.mp hlatest.mem with rfl | hmem
      · exact List.mem_append_left _ hgreatest.mem
      · exact List.mem_append_right _ hmem
    · rcases List.mem_append.mp hvalue with hmem | hmem
      · exact (hgreatest.le value hmem).trans (hlatest.le middle List.mem_cons_self)
      · exact hlatest.le value (List.mem_cons_of_mem _ hmem)

lemma normal_foldEpisodes (first next : ProfileEpisodeRecord) (rest : List ProfileEpisodeRecord) :
    normalTitle (foldEpisodes platform first (next :: rest)) =
        (foldEpisodes platform first (next :: rest)).title ∧
      normalSummary (foldEpisodes platform first (next :: rest)) =
        (foldEpisodes platform first (next :: rest)).summary := by
  have hchoose : ∀ left right, normalizeProfileValue (chooseLongerValue left right) =
      chooseLongerValue left right := by
    intro left right
    unfold chooseLongerValue
    dsimp only
    split_ifs <;> exact normalizeProfileValue_idem _
  unfold foldEpisodes
  rw [List.foldl_cons]
  induction rest generalizing first next with
  | nil =>
      simp only [List.foldl_nil, normalTitle, normalSummary, mergeConsolidatedEpisodeRecords]
      exact ⟨hchoose _ _, hchoose _ _⟩
  | cons episode rest ih => exact ih _ episode

lemma resolvedAt_foldEpisodes_of_open
    (hopen : ¬ ∀ episode ∈ first :: next :: rest, episode.isTerminal = true) :
    (foldEpisodes platform first (next :: rest)).resolvedAt = none := by
  unfold foldEpisodes
  rw [List.foldl_cons]
  induction rest generalizing first next with
  | nil => exact resolvedAt_merge fun hboth => hopen (by simpa using hboth)
  | cons episode rest ih =>
      refine ih fun hall => hopen ?_
      have hmerged := @isTerminal_merge platform first next
      simp only [List.forall_mem_cons, hmerged, Bool.and_eq_true] at hall ⊢
      exact ⟨hall.1.1, hall.1.2, hall.2⟩

lemma sensitive_foldEpisodes (first : ProfileEpisodeRecord) (rest : List ProfileEpisodeRecord) :
    (foldEpisodes platform first rest).sensitive = (first :: rest).any (·.sensitive) := by
  unfold foldEpisodes
  induction rest generalizing first with
  | nil => simp
  | cons episode rest ih =>
      have hmerge : (mergeConsolidatedEpisodeRecords platform first episode).sensitive =
          (first.sensitive || episode.sensitive) := rfl
      rw [List.foldl_cons, ih, List.any_cons, hmerge]
      simp [Bool.or_assoc]

lemma priority_injective {status other : ProfileEpisodeStatus}
    (h : EPISODE_STATUS_PRIORITY status = EPISODE_STATUS_PRIORITY other) : status = other := by
  cases status <;> cases other <;> first | rfl | cases h

lemma Collated.mono {texts others : List String} (h : Collated platform texts)
    (hsub : others ⊆ texts) : Collated platform others :=
  fun left hleft right hright => h left (hsub hleft) right (hsub hright)

/-- The duplicates in two orders, two or more. -/
structure FoldOrders (platform : BridgePlatform) (first next : ProfileEpisodeRecord)
    (rest : List ProfileEpisodeRecord) (other last : ProfileEpisodeRecord)
    (others : List ProfileEpisodeRecord) : Prop where
  perm : (first :: next :: rest).Perm (other :: last :: others)
  dated : ∀ episode ∈ first :: next :: rest, DatedEpisode platform episode
  nodup : (first :: next :: rest).Nodup
  alike : FoldsAlike platform (first :: next :: rest)

namespace FoldOrders

variable (h : FoldOrders platform first next rest other last others)

include h

lemma dated_other : ∀ episode ∈ other :: last :: others, DatedEpisode platform episode :=
  fun episode hepisode => h.dated episode (h.perm.mem_iff.mpr hepisode)

/-- A field that every merge takes from one of its sides, a greater one. -/
lemma field_eq {β γ : Type} [LinearOrder β] {measure : γ → β} {field : ProfileEpisodeRecord → γ}
    (hkeeps : ∀ left right, DatedEpisode platform left → DatedEpisode platform right →
      KeepsGreater measure field (mergeConsolidatedEpisodeRecords platform) left right)
    (hone : OneGreatest measure ((first :: next :: rest).map field)) :
    field (foldEpisodes platform first (next :: rest)) =
      field (foldEpisodes platform other (last :: others)) := by
  have hkept := fun left right => @DatedEpisode.merge platform left right
  have hfirst := List.forall_mem_cons.mp h.dated
  have hother := List.forall_mem_cons.mp h.dated_other
  exact (greatestOf_foldl hkept hkeeps hfirst.1 hfirst.2).eq_of_perm
    (greatestOf_foldl hkept hkeeps hother.1 hother.2) (h.perm.map field) hone

/-- Different times are greatest by different measures. -/
lemma oneGreatest_time {field : ProfileEpisodeRecord → String} {measure : String → ℤ}
    (hdate : ∀ episode, DatedEpisode platform episode → IsIsoTime platform (field episode))
    (hmeasure : ∀ left right, measure left = measure right →
      isoTimeOf platform left = isoTimeOf platform right) :
    OneGreatest measure ((first :: next :: rest).map field) := by
  have hiso : ∀ text ∈ (first :: next :: rest).map field, IsIsoTime platform text := by
    intro text htext
    obtain ⟨episode, hepisode, rfl⟩ := List.mem_map.mp htext
    exact hdate episode (h.dated episode hepisode)
  exact oneGreatest_of_injOn fun left hleft right hright hsame =>
    (hiso left hleft).eq_of_timeOf (hiso right hright) (hmeasure left right hsame)

lemma resolvedAt_eq : (foldEpisodes platform first (next :: rest)).resolvedAt =
    (foldEpisodes platform other (last :: others)).resolvedAt := by
  by_cases hclosed : ∀ episode ∈ first :: next :: rest, episode.isTerminal = true
  · have hclosedOther : ∀ episode ∈ other :: last :: others, episode.isTerminal = true :=
      fun episode hepisode => hclosed episode (h.perm.mem_iff.mpr hepisode)
    have hclosingsOther : ClosingsAgree platform (other :: last :: others) := by
      rcases h.alike.closings with ⟨episode, hepisode, hopen⟩ | honly | htwo | ⟨known, hknown, hlater⟩
      · exact Or.inl ⟨episode, h.perm.mem_iff.mp hepisode, hopen⟩
      · exact Or.inr (Or.inl fun episode hepisode episode' hepisode' =>
          honly episode (h.perm.mem_iff.mpr hepisode) episode' (h.perm.mem_iff.mpr hepisode'))
      · exact Or.inr (Or.inr (Or.inl (h.perm.length_eq.symm.trans htwo)))
      · exact Or.inr (Or.inr (Or.inr ⟨known, (h.perm.filterMap _).mem_iff.mp hknown,
          fun episode hepisode => hlater episode (h.perm.mem_iff.mpr hepisode)⟩))
    have hperm := h.perm.filterMap (·.resolvedAt)
    obtain ⟨closing, hclosing, hcases⟩ :=
      closing_foldEpisodes h.dated h.nodup h.alike.closings hclosed
    obtain ⟨closing', hclosing', hcases'⟩ :=
      closing_foldEpisodes h.dated_other (h.perm.nodup_iff.mp h.nodup) hclosingsOther hclosedOther
    rw [hclosing, hclosing']
    rcases hcases with hgreatest | ⟨hnone, hmade⟩
    · rcases hcases' with hgreatest' | ⟨hnone', -⟩
      · have hiso : ∀ text ∈ (first :: next :: rest).filterMap (·.resolvedAt),
            IsIsoTime platform text := by
          intro text htext
          obtain ⟨episode, hepisode, hresolved⟩ := List.mem_filterMap.mp htext
          exact (h.dated episode hepisode).resolvedAt text hresolved
        exact congrArg some (hgreatest.eq_of_perm hgreatest' hperm (oneGreatest_of_injOn
          fun left hleft right hright hsame =>
            (hiso left hleft).eq_of_timeOf (hiso right hright) hsame))
      · have hmem := hperm.mem_iff.mp hgreatest.mem
        rw [hnone'] at hmem
        cases hmem
    · rcases hcases' with hgreatest' | ⟨-, hmade'⟩
      · have hmem := hperm.mem_iff.mpr hgreatest'.mem
        rw [hnone] at hmem
        cases hmem
      · have hupdated := h.field_eq (fun _ _ => keepsGreater_update) h.alike.latest
        rw [hmade, hmade']
        exact congrArg (some ∘ EpisodeUpdate.lastUpdatedAt) hupdated
  · have hclosedOther : ¬ ∀ episode ∈ other :: last :: others, episode.isTerminal = true :=
      fun hall => hclosed fun episode hepisode => hall episode (h.perm.mem_iff.mp hepisode)
    rw [resolvedAt_foldEpisodes_of_open hclosed, resolvedAt_foldEpisodes_of_open hclosedOther]

end FoldOrders

/-- Duplicates that fold alike give one record, whatever their order. -/
theorem foldEpisodes_perm (hperm : (first :: rest).Perm (other :: others))
    (hdated : ∀ episode ∈ first :: rest, DatedEpisode platform episode)
    (hnodup : (first :: rest).Nodup) (halike : FoldsAlike platform (first :: rest)) :
    foldEpisodes platform first rest = foldEpisodes platform other others := by
  cases rest with
  | nil =>
      have hsingle : [first] = other :: others := List.singleton_perm.mp hperm
      cases hsingle
      rfl
  | cons next rest =>
      cases others with
      | nil => exact absurd hperm.length_eq (by simp)
      | cons last others =>
          have h : FoldOrders platform first next rest other last others :=
            ⟨hperm, hdated, hnodup, halike⟩
          have hupdate := h.field_eq (fun _ _ => keepsGreater_update) halike.latest
          have htitle := h.field_eq (fun left right _ _ => keepsGreater_title left right) halike.titles
          have hsummary := h.field_eq (fun left right _ _ => keepsGreater_summary left right)
            halike.summaries
          have hlist : ∀ {field : ProfileEpisodeRecord → List String},
              (∀ left right, field (mergeConsolidatedEpisodeRecords platform left right) =
                canonicalStringList platform normalizeProfileValue (field left ++ field right)) →
              (∀ episode, (field episode).map normalizeProfileValue ⊆ listedTexts episode) →
              field (foldEpisodes platform first (next :: rest)) =
                field (foldEpisodes platform other (last :: others)) := by
            intro field hmerge hlisted
            refine list_foldEpisodes_perm hmerge hperm (halike.collated.mono fun text htext => ?_)
            obtain ⟨episode, hepisode, hmem⟩ := List.mem_flatMap.mp htext
            exact List.mem_flatMap.mpr ⟨episode, hepisode, hlisted episode hmem⟩
          rw [(normal_foldEpisodes first next rest).1,
            (normal_foldEpisodes other last others).1] at htitle
          rw [(normal_foldEpisodes first next rest).2,
            (normal_foldEpisodes other last others).2] at hsummary
          refine ProfileEpisodeRecord.ext (congrArg EpisodeUpdate.id hupdate) htitle hsummary ?_
            (congrArg EpisodeUpdate.sourceTaskId hupdate) (congrArg EpisodeUpdate.source hupdate)
            (congrArg EpisodeUpdate.sourceKind hupdate) ?_ ?_ ?_ ?_
            (congrArg EpisodeUpdate.lastUpdatedAt hupdate) h.resolvedAt_eq ?_ ?_ ?_
          · exact h.field_eq (fun left right _ _ => keepsGreater_status left right)
              (oneGreatest_of_injOn fun _ _ _ _ hsame => priority_injective hsame)
          · rw [sensitive_foldEpisodes, sensitive_foldEpisodes]
            exact hperm.any_eq
          · exact h.field_eq (fun left right _ _ => keepsGreater_confidence left right)
              (oneGreatest_of_injOn fun _ _ _ _ hsame => hsame)
          · exact h.field_eq (fun _ _ => keepsGreater_observedAt)
              (h.oneGreatest_time (fun _ hdate => hdate.observedAt) fun _ _ hsame => neg_inj.mp hsame)
          · exact h.field_eq (fun _ _ => keepsGreater_lastMentionedAt)
              (h.oneGreatest_time (fun _ hdate => hdate.lastMentionedAt) fun _ _ hsame => hsame)
          · exact hlist (fun _ _ => rfl) fun episode => by simp [listedTexts]
          · exact hlist (fun _ _ => rfl) fun episode => by simp [listedTexts]
          · exact hlist (fun _ _ => rfl) fun episode => by simp [listedTexts]

end Alike

end AgentBigBrain.Core
