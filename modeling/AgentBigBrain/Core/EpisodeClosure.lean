import AgentBigBrain.Core.EpisodeConsolidation
import AgentBigBrain.Lib.Runs

/-!
# Closed episodes

Candidates and resolutions never take an episode out of a terminal status. A load does where it
folds a closed episode together with an open one, because the priority of a consolidation puts
the open statuses first. In every run whose loads meet no such pair, what represents a closed
episode is closed.
-/
namespace AgentBigBrain.Core

open AgentBigBrain.Js AgentBigBrain.Lib

variable (platform : BridgePlatform) (hostSort : HostSort)

/-! ## Consolidations in any order -/

def duplicatesOf (key : String) (episodes : List ProfileEpisodeRecord) :
    List ProfileEpisodeRecord :=
  episodes.filter fun episode => buildProfileEpisodeConsolidationKey platform episode = key

/-- What a consolidation needs so that the order of the list does not matter. -/
structure ConsolidatesAlike (episodes : List ProfileEpisodeRecord) : Prop where
  dated : ∀ episode ∈ episodes, DatedEpisode platform episode
  ids : (episodes.map ProfileEpisodeRecord.id).Nodup
  duplicates : ∀ key, FoldsAlike platform (duplicatesOf platform key episodes)
  collatedIds : Collated platform (episodes.map ProfileEpisodeRecord.id)
  collatedTimes : Collated platform (episodes.map ProfileEpisodeRecord.lastMentionedAt)

section Consolidation

variable {platform hostSort} {episodes others : List ProfileEpisodeRecord} {key : String}

/-- The records of a key, folded. -/
lemma find_consolidatedByKey :
    (episodesByConsolidationKey platform).find key (consolidatedByKey platform episodes) =
      match duplicatesOf platform key episodes with
      | [] => none
      | first :: rest => some (key, foldEpisodes platform first rest) := by
  unfold consolidatedByKey
  rw [KeyedMerge.find_collect, List.filter_map]
  have hfold : ∀ (rest : List ProfileEpisodeRecord) (held : ProfileEpisodeRecord),
      (∀ episode ∈ rest, buildProfileEpisodeConsolidationKey platform episode = key) →
      (rest.map fun episode => (buildProfileEpisodeConsolidationKey platform episode, episode)).foldl
        (episodesByConsolidationKey platform).combine (some (key, held)) =
          some (key, foldEpisodes platform held rest) := by
    intro rest
    induction rest with
    | nil => exact fun _ _ => rfl
    | cons episode rest ih =>
        intro held hkeys
        have hhead := hkeys episode List.mem_cons_self
        have hrest := fun other hother => hkeys other (List.mem_cons_of_mem _ hother)
        rw [List.map_cons, List.foldl_cons]
        simp only [hhead]
        exact ih (mergeConsolidatedEpisodeRecords platform held episode) hrest
  have hgroup : List.filter
      ((fun entry : String × ProfileEpisodeRecord =>
        decide ((episodesByConsolidationKey platform).key entry = key)) ∘
        fun episode => (buildProfileEpisodeConsolidationKey platform episode, episode)) episodes =
      duplicatesOf platform key episodes := rfl
  rw [hgroup]
  cases hcase : duplicatesOf platform key episodes with
  | nil => rfl
  | cons first rest =>
      have hkeys : ∀ episode ∈ first :: rest,
          buildProfileEpisodeConsolidationKey platform episode = key := by
        intro episode hepisode
        rw [← hcase] at hepisode
        simpa [duplicatesOf] using (List.mem_filter.mp hepisode).2
      rw [List.map_cons, List.foldl_cons, hkeys first List.mem_cons_self]
      exact hfold rest first fun episode hepisode => hkeys episode (List.mem_cons_of_mem _ hepisode)

lemma distinct_consolidatedByKey :
    (episodesByConsolidationKey platform).Distinct (consolidatedByKey platform episodes) :=
  KeyedMerge.distinct_collect _ List.nodup_nil

/-- A kept record is the fold of the duplicates of its key. -/
lemma exists_fold_of_mem {entry : String × ProfileEpisodeRecord}
    (h : entry ∈ consolidatedByKey platform episodes) :
    ∃ first rest, duplicatesOf platform entry.1 episodes = first :: rest ∧
      entry.2 = foldEpisodes platform first rest := by
  have hfind := KeyedMerge.find_eq_some_of_mem _ distinct_consolidatedByKey h
  have hkey : (episodesByConsolidationKey platform).key entry = entry.1 := rfl
  rw [hkey, find_consolidatedByKey] at hfind
  cases hcase : duplicatesOf platform entry.1 episodes with
  | nil => rw [hcase] at hfind; cases hfind
  | cons first rest =>
      rw [hcase] at hfind
      exact ⟨first, rest, rfl, (congrArg Prod.snd (Option.some.inj hfind)).symm⟩

lemma ids_consolidated (h : (episodes.map ProfileEpisodeRecord.id).Nodup) :
    (((consolidatedByKey platform episodes).map Prod.snd).map ProfileEpisodeRecord.id).Nodup := by
  rw [List.map_map]
  refine KeyedMerge.map_collect_nodup _ (fun existing entry => ?_) ?_
  · change (mergeConsolidatedEpisodeRecords platform existing.2 entry.2).id = existing.2.id ∨
      (mergeConsolidatedEpisodeRecords platform existing.2 entry.2).id = entry.2.id
    simp only [mergeConsolidatedEpisodeRecords]
    split_ifs
    · exact Or.inl rfl
    · exact Or.inr rfl
  · simpa [List.map_map, Function.comp_def] using h

lemma duplicatesOf_perm (hperm : episodes.Perm others) :
    (duplicatesOf platform key episodes).Perm (duplicatesOf platform key others) :=
  hperm.filter _

lemma consolidatedByKey_perm (hperm : episodes.Perm others)
    (halike : ConsolidatesAlike platform episodes) :
    (consolidatedByKey platform episodes).Perm (consolidatedByKey platform others) := by
  refine KeyedMerge.perm_of_find_eq _ distinct_consolidatedByKey distinct_consolidatedByKey
    fun key => ?_
  rw [find_consolidatedByKey, find_consolidatedByKey]
  have hgroups : (duplicatesOf platform key episodes).Perm (duplicatesOf platform key others) :=
    duplicatesOf_perm hperm
  have hdated : ∀ episode ∈ duplicatesOf platform key episodes, DatedEpisode platform episode :=
    fun episode hepisode => halike.dated episode (List.mem_of_mem_filter hepisode)
  have hnodup : (duplicatesOf platform key episodes).Nodup :=
    (List.Nodup.of_map _ halike.ids).filter _
  have hduplicates := halike.duplicates key
  cases hcase : duplicatesOf platform key episodes with
  | nil =>
      rw [hcase] at hgroups
      rw [List.nil_perm.mp hgroups]
  | cons first rest =>
      cases hother : duplicatesOf platform key others with
      | nil =>
          rw [hcase, hother] at hgroups
          exact absurd hgroups.length_eq (by simp)
      | cons other tail =>
          rw [hcase, hother] at hgroups
          rw [hcase] at hdated hnodup hduplicates
          have hfold := foldEpisodes_perm hgroups hdated hnodup hduplicates
          dsimp only
          rw [hfold]

/-- The order of stored episodes as a comparator. -/
def storedEpisodeOrder (platform : BridgePlatform) : Comparator ProfileEpisodeRecord :=
  (platform.locale.byKey ProfileEpisodeRecord.lastMentionedAt).reverse.thenBy
    (platform.locale.byKey ProfileEpisodeRecord.id)

lemma compareStoredEpisodes_eq {left right : ProfileEpisodeRecord} {times : List String}
    (htimes : Collated platform times) (hleft : left.lastMentionedAt ∈ times)
    (hright : right.lastMentionedAt ∈ times) :
    compareStoredEpisodes platform left right = (storedEpisodeOrder platform).le left right := by
  unfold compareStoredEpisodes storedEpisodeOrder
  simp only [Comparator.thenBy, Comparator.reverse_le, Comparator.byKey_le]
  split_ifs with hsame
  · simp [hsame]
  · cases hback : platform.locale.le right.lastMentionedAt left.lastMentionedAt with
    | false => rfl
    | true =>
        have hforth : platform.locale.le left.lastMentionedAt right.lastMentionedAt = false := by
          refine Bool.eq_false_iff.mpr fun h => hsame ?_
          exact htimes _ hleft _ hright h hback
        simp [hforth]

/-- A consolidation gives the same list for every order of the episodes. -/
theorem consolidateProfileEpisodes_perm (hperm : episodes.Perm others)
    (halike : ConsolidatesAlike platform episodes) :
    consolidateProfileEpisodes platform hostSort episodes =
      consolidateProfileEpisodes platform hostSort others := by
  unfold consolidateProfileEpisodes
  rw [← hperm.length_eq]
  split_ifs with hshort
  · cases episodes with
    | nil => exact (List.nil_perm.mp hperm).symm
    | cons episode rest =>
        have hrest : rest = [] := List.eq_nil_of_length_eq_zero (by simpa using hshort)
        subst hrest
        exact List.singleton_perm.mp hperm
  · have hvalues := (consolidatedByKey_perm hperm halike).map Prod.snd
    have hids := @ids_consolidated platform episodes halike.ids
    set kept := (consolidatedByKey platform episodes).map Prod.snd with hkept
    have hfrom : ∀ record ∈ kept, record.id ∈ episodes.map ProfileEpisodeRecord.id ∧
        record.lastMentionedAt ∈ episodes.map ProfileEpisodeRecord.lastMentionedAt := by
      intro record hrecord
      obtain ⟨entry, hentry, rfl⟩ := List.mem_map.mp hrecord
      obtain ⟨first, rest, hgroup, hfold⟩ := exists_fold_of_mem hentry
      have hmem : ∀ episode ∈ first :: rest, episode ∈ episodes := fun episode hepisode =>
        List.mem_of_mem_filter (hgroup ▸ hepisode)
      have hdated := fun episode hepisode => halike.dated episode (hmem episode hepisode)
      have hsplit := List.forall_mem_cons.mp hdated
      have hkeeps := fun left right => @DatedEpisode.merge platform left right
      have hupdate := greatestOf_foldl hkeeps (fun _ _ => keepsGreater_update) hsplit.1 hsplit.2
      have htime := greatestOf_foldl hkeeps (fun _ _ => keepsGreater_lastMentionedAt) hsplit.1
        hsplit.2
      obtain ⟨source, hsource, hsame⟩ := List.mem_map.mp hupdate.mem
      obtain ⟨mentioned, hmentioned, htext⟩ := List.mem_map.mp htime.mem
      rw [hfold]
      exact ⟨List.mem_map.mpr ⟨source, hmem source hsource, congrArg EpisodeUpdate.id hsame⟩,
        List.mem_map.mpr ⟨mentioned, hmem mentioned hmentioned, htext⟩⟩
    have hsort : ∀ list : List ProfileEpisodeRecord, (∀ record ∈ list, record ∈ kept) →
        sortEpisodes platform hostSort list = (storedEpisodeOrder platform).sort list := by
      intro list hlist
      refine hostSort.sort_eq _ _ _ fun left hleft right hright => ?_
      exact compareStoredEpisodes_eq halike.collatedTimes (hfrom left (hlist left hleft)).2
        (hfrom right (hlist right hright)).2
    rw [hsort kept fun _ h => h, hsort _ fun record h => hvalues.mem_iff.mpr h]
    refine Comparator.sort_eq_of_perm _ hvalues fun left hleft right hright hle hge => ?_
    have hparts := And.intro hle hge
    simp only [storedEpisodeOrder, Comparator.thenBy, Comparator.reverse_le, Comparator.byKey_le,
      Bool.and_eq_true, Bool.or_eq_true, Bool.not_eq_true'] at hparts
    obtain ⟨⟨hback, hidLe⟩, hforth, hidGe⟩ := hparts
    rw [hforth] at hidLe
    rw [hback] at hidGe
    have hid : left.id = right.id := halike.collatedIds _ (hfrom left hleft).1 _
      (hfrom right hright).1 (by simpa using hidLe) (by simpa using hidGe)
    exact List.inj_on_of_nodup_map hids hleft hright hid

end Consolidation

/-! ## Runs -/

inductive EpisodeEvent where
  | load (now : String)
  | candidates (now : String) (readings : ℕ → EpisodeReadings)
      (candidates : List CreateProfileEpisodeRecordInput)
  | resolutions (now : String) (resolutions : List ProfileEpisodeResolutionInput)

/-- The id of a new episode is one that no other has. -/
def episodeStep (episodes : List ProfileEpisodeRecord) :
    EpisodeEvent → Option (List ProfileEpisodeRecord)
  | .load now => some (loadEpisodes platform hostSort now episodes)
  | .candidates now readings candidates =>
      let next := (applyProfileEpisodeCandidates platform hostSort now readings episodes
        candidates).episodes
      if (next.map ProfileEpisodeRecord.id).Nodup then some next else none
  | .resolutions now resolutions =>
      some (applyProfileEpisodeResolutions platform hostSort now episodes resolutions).episodes

/-- The record a load keeps for an episode. -/
def representativeOf (now : String) (stored : List ProfileEpisodeRecord)
    (episode : ProfileEpisodeRecord) : Option ProfileEpisodeRecord :=
  let episodes := stored.map (normalizeProfileMemoryEpisode platform now)
  let normalized := normalizeProfileMemoryEpisode platform now episode
  if (consolidateProfileEpisodes platform hostSort episodes).length < episodes.length then
    ((episodesByConsolidationKey platform).find
      (buildProfileEpisodeConsolidationKey platform normalized)
      (consolidatedByKey platform episodes)).map Prod.snd
  else
    some normalized

/-- The record that an episode is after an event: the one with its id, or what a load folded it
into. -/
def RepresentedBy (before : List ProfileEpisodeRecord) (episode last : ProfileEpisodeRecord) :
    EpisodeEvent → Prop
  | .load now => representativeOf platform hostSort now before episode = some last
  | _ => last.id = episode.id

/-- What an episode has become after a run. -/
inductive Represents : List ProfileEpisodeRecord → List EpisodeEvent → ProfileEpisodeRecord →
    ProfileEpisodeRecord → Prop where
  | refl {episodes episode} : Represents episodes [] episode episode
  | step {episodes next : List ProfileEpisodeRecord} {event : EpisodeEvent}
      {events : List EpisodeEvent} {episode middle last : ProfileEpisodeRecord}
      (hstep : episodeStep platform hostSort episodes event = some next) (hmem : middle ∈ next)
      (hmiddle : RepresentedBy platform hostSort episodes episode middle event)
      (hlast : Represents next events middle last) :
      Represents episodes (event :: events) episode last

/-- At every moment of the run, what a closed episode becomes is closed. -/
def ClosedStayClosed (start : List ProfileEpisodeRecord) (events : List EpisodeEvent) : Prop :=
  ∀ before between after, events = before ++ between ++ after →
    ∀ middle ∈ run (episodeStep platform hostSort) start before, ∀ episode ∈ middle,
      episode.isTerminal = true →
        ∀ last, Represents platform hostSort middle between episode last → last.isTerminal = true

/-- No closed episode of a loaded list has the consolidation key of an open one. -/
def ClosedApart (episodes : List ProfileEpisodeRecord) : EpisodeEvent → Prop
  | .load now => ∀ episode ∈ episodes, ∀ other ∈ episodes,
      buildProfileEpisodeConsolidationKey platform
          (normalizeProfileMemoryEpisode platform now episode) =
        buildProfileEpisodeConsolidationKey platform
          (normalizeProfileMemoryEpisode platform now other) →
      episode.isTerminal = true → other.isTerminal = true
  | _ => True

instance (episodes : List ProfileEpisodeRecord) (event : EpisodeEvent) :
    Decidable (ClosedApart platform episodes event) := by
  cases event <;> unfold ClosedApart <;> infer_instance

/-! ## What candidates and resolutions carry on -/

/-- Each episode is still there, and closed where it was closed. -/
def CarriedOn (before after : List ProfileEpisodeRecord) : Prop :=
  ∀ episode ∈ before, ∃ last ∈ after, last.id = episode.id ∧
    (episode.isTerminal = true → last.isTerminal = true)

section Carried

variable {platform hostSort} {before middle after : List ProfileEpisodeRecord}

lemma CarriedOn.refl (episodes : List ProfileEpisodeRecord) : CarriedOn episodes episodes :=
  fun episode hepisode => ⟨episode, hepisode, rfl, id⟩

lemma CarriedOn.trans (h : CarriedOn before middle) (hafter : CarriedOn middle after) :
    CarriedOn before after := by
  intro episode hepisode
  obtain ⟨next, hnext, hid, hclosed⟩ := h episode hepisode
  obtain ⟨last, hlast, hid', hclosed'⟩ := hafter next hnext
  exact ⟨last, hlast, hid'.trans hid, fun hterminal => hclosed' (hclosed hterminal)⟩

lemma CarriedOn.of_subset (h : before ⊆ after) : CarriedOn before after :=
  fun episode hepisode => ⟨episode, h hepisode, rfl, id⟩

lemma CarriedOn.sortEpisodes (h : CarriedOn before after) :
    CarriedOn before (sortEpisodes platform hostSort after) :=
  h.trans (CarriedOn.of_subset fun _ hmem => (sortEpisodes_perm platform hostSort _).mem_iff.mpr hmem)

lemma CarriedOn.set {index : ℕ} {old new : ProfileEpisodeRecord} (hold : before[index]? = some old)
    (hid : new.id = old.id) (hclosed : old.isTerminal = true → new.isTerminal = true) :
    CarriedOn before (before.set index new) := by
  intro episode hepisode
  obtain ⟨position, hposition⟩ := List.mem_iff_getElem?.mp hepisode
  by_cases hsame : index = position
  · subst hsame
    obtain rfl : old = episode := Option.some.inj (hold.symm.trans hposition)
    have hlt := (List.getElem?_eq_some_iff.mp hold).1
    exact ⟨new, List.mem_set hlt new, hid, hclosed⟩
  · refine ⟨episode, List.mem_iff_getElem?.mpr ⟨position, ?_⟩, rfl, id⟩
    rw [List.getElem?_set_ne hsame]
    exact hposition

/-- A merged status is terminal where the old one is. -/
lemma mergeEpisodeStatus_terminal {existing incoming : ProfileEpisodeStatus}
    (h : isTerminalProfileEpisodeStatus existing = true) :
    isTerminalProfileEpisodeStatus (mergeEpisodeStatus existing incoming) = true := by
  cases existing <;> cases incoming <;> first | rfl | cases h

lemma id_mergeEpisodeRecord (now : String) (existing : ProfileEpisodeRecord)
    (candidate : CreateProfileEpisodeRecordInput) :
    (mergeEpisodeRecord platform now existing candidate).id = existing.id := by
  simp only [mergeEpisodeRecord]

lemma isTerminal_mergeEpisodeRecord {now : String} {existing : ProfileEpisodeRecord}
    {candidate : CreateProfileEpisodeRecordInput} (h : existing.isTerminal = true) :
    (mergeEpisodeRecord platform now existing candidate).isTerminal = true := by
  unfold ProfileEpisodeRecord.isTerminal at h ⊢
  simp only [mergeEpisodeRecord]
  exact mergeEpisodeStatus_terminal h

lemma carriedOn_candidate (readings : EpisodeReadings) (changes : EpisodeChanges)
    (candidate : CreateProfileEpisodeRecordInput) :
    CarriedOn changes.episodes
      (applyEpisodeCandidate platform readings changes candidate).episodes := by
  unfold applyEpisodeCandidate
  dsimp only
  split
  · exact CarriedOn.of_subset (List.subset_append_left _ _)
  · rename_i existing hexisting
    exact CarriedOn.set hexisting (id_mergeEpisodeRecord readings.now existing candidate)
      isTerminal_mergeEpisodeRecord

lemma carriedOn_candidates (now : String) (readings : ℕ → EpisodeReadings)
    (episodes : List ProfileEpisodeRecord) (candidates : List CreateProfileEpisodeRecordInput) :
    CarriedOn episodes
      (applyProfileEpisodeCandidates platform hostSort now readings episodes candidates).episodes := by
  unfold applyProfileEpisodeCandidates
  dsimp only
  split_ifs
  · exact CarriedOn.refl episodes
  · refine CarriedOn.sortEpisodes ?_
    unfold applyEpisodeCandidateList
    have hfold : ∀ (entries : List (CreateProfileEpisodeRecordInput × ℕ)) (changes : EpisodeChanges),
        CarriedOn changes.episodes (entries.foldl (fun changes entry =>
          applyEpisodeCandidate platform (readings entry.2) changes entry.1) changes).episodes := by
      intro entries
      induction entries with
      | nil => exact fun changes => CarriedOn.refl changes.episodes
      | cons entry entries ih => exact fun changes => (carriedOn_candidate _ changes _).trans (ih _)
    exact hfold _ ⟨episodes, 0, 0⟩

lemma id_applyEpisodeResolution (now : String) (episode : ProfileEpisodeRecord)
    (resolution : ProfileEpisodeResolutionInput) :
    (applyEpisodeResolution platform now episode resolution).id = episode.id := by
  simp only [applyEpisodeResolution]

lemma isTerminal_applyEpisodeResolution {now : String} {episode : ProfileEpisodeRecord}
    {resolution : ProfileEpisodeResolutionInput} (h : episode.isTerminal = true) :
    (applyEpisodeResolution platform now episode resolution).isTerminal = true := by
  unfold ProfileEpisodeRecord.isTerminal at h ⊢
  simp only [applyEpisodeResolution]
  exact mergeEpisodeStatus_terminal h

lemma resolveEpisode_carries (now : String) (changes : EpisodeChanges)
    (resolution : ProfileEpisodeResolutionInput) :
    CarriedOn changes.episodes (resolveEpisode platform now changes resolution).episodes ∧
      (resolveEpisode platform now changes resolution).episodes.map ProfileEpisodeRecord.id =
        changes.episodes.map ProfileEpisodeRecord.id := by
  unfold resolveEpisode
  dsimp only
  split
  · exact ⟨CarriedOn.refl _, rfl⟩
  · rename_i episode hepisode
    split_ifs
    · exact ⟨CarriedOn.refl _, rfl⟩
    · refine ⟨CarriedOn.set hepisode (id_applyEpisodeResolution now episode resolution)
        isTerminal_applyEpisodeResolution, ?_⟩
      obtain ⟨hlt, rfl⟩ := List.getElem?_eq_some_iff.mp hepisode
      rw [List.map_set]
      refine List.ext_getElem (by simp) fun position hleft hright => ?_
      rw [List.getElem_set]
      split_ifs with hsame
      · subst hsame
        rw [id_applyEpisodeResolution, List.getElem_map]
      · rfl

lemma resolutions_carry (now : String) (episodes : List ProfileEpisodeRecord)
    (resolutions : List ProfileEpisodeResolutionInput) :
    CarriedOn episodes
        (applyProfileEpisodeResolutions platform hostSort now episodes resolutions).episodes ∧
      ((applyProfileEpisodeResolutions platform hostSort now episodes resolutions).episodes.map
        ProfileEpisodeRecord.id).Perm (episodes.map ProfileEpisodeRecord.id) := by
  have hfold : ∀ (resolutions : List ProfileEpisodeResolutionInput) (changes : EpisodeChanges),
      CarriedOn changes.episodes
          (resolutions.foldl (resolveEpisode platform now) changes).episodes ∧
        (resolutions.foldl (resolveEpisode platform now) changes).episodes.map
          ProfileEpisodeRecord.id = changes.episodes.map ProfileEpisodeRecord.id := by
    intro resolutions
    induction resolutions with
    | nil => exact fun changes => ⟨CarriedOn.refl _, rfl⟩
    | cons resolution resolutions ih =>
        intro changes
        obtain ⟨hcarried, hids⟩ := @resolveEpisode_carries platform now changes resolution
        obtain ⟨hrest, hidsRest⟩ := ih (resolveEpisode platform now changes resolution)
        exact ⟨hcarried.trans hrest, hidsRest.trans hids⟩
  unfold applyProfileEpisodeResolutions
  dsimp only
  obtain ⟨hcarried, hids⟩ := hfold (dedupeEpisodeResolutions resolutions) ⟨episodes, 0, 0⟩
  split_ifs
  · exact ⟨CarriedOn.refl _, List.Perm.refl _⟩
  · exact ⟨hcarried.sortEpisodes, ((sortEpisodes_perm platform hostSort _).map _).trans (List.Perm.of_eq hids)⟩

end Carried

/-! ## What a load keeps -/

section Loads

variable {platform hostSort} {now : String} {stored : List ProfileEpisodeRecord}
  {episode last : ProfileEpisodeRecord}

lemma consolidated_of_shorter {episodes : List ProfileEpisodeRecord}
    (h : (consolidateProfileEpisodes platform hostSort episodes).length < episodes.length) :
    consolidateProfileEpisodes platform hostSort episodes =
      sortEpisodes platform hostSort ((consolidatedByKey platform episodes).map Prod.snd) := by
  unfold consolidateProfileEpisodes at h ⊢
  split_ifs with hshort
  · rw [if_pos hshort] at h
    exact absurd h (lt_irrefl _)
  · rfl

/-- Where a consolidation merges nothing, no two records share a key. -/
lemma nodup_keys_of_not_shorter {episodes : List ProfileEpisodeRecord}
    (h : ¬ (consolidateProfileEpisodes platform hostSort episodes).length < episodes.length) :
    (episodes.map (buildProfileEpisodeConsolidationKey platform)).Nodup := by
  unfold consolidateProfileEpisodes at h
  split_ifs at h with hshort
  · cases episodes with
    | nil => exact List.nodup_nil
    | cons episode rest =>
        have hrest : rest = [] := List.eq_nil_of_length_eq_zero (by simpa using hshort)
        subst hrest
        exact List.nodup_singleton _
  · have hkeys : ((consolidatedByKey platform episodes).map Prod.fst).Perm
        (episodes.map (buildProfileEpisodeConsolidationKey platform)).dedup := by
      refine (List.perm_ext_iff_of_nodup distinct_consolidatedByKey (List.nodup_dedup _)).mpr
        fun key => ?_
      rw [List.mem_dedup]
      refine ((episodesByConsolidationKey platform).mem_keys_collect [] _).trans ?_
      simp [episodesByConsolidationKey]
    have hlength : (sortEpisodes platform hostSort
        ((consolidatedByKey platform episodes).map Prod.snd)).length =
          (episodes.map (buildProfileEpisodeConsolidationKey platform)).dedup.length := by
      rw [(sortEpisodes_perm platform hostSort _).length_eq, List.length_map, ← hkeys.length_eq, List.length_map]
    have hsame : (episodes.map (buildProfileEpisodeConsolidationKey platform)).dedup =
        episodes.map (buildProfileEpisodeConsolidationKey platform) := by
      refine (List.dedup_sublist _).eq_of_length_le ?_
      rw [← hlength, List.length_map]
      omega
    exact hsame ▸ List.nodup_dedup _

/-- A load keeps the representative of every stored episode, and it is closed exactly if all
records of its key are. -/
lemma representativeOf_spec (hmem : episode ∈ stored) :
    ∃ last ∈ loadEpisodes platform hostSort now stored,
      representativeOf platform hostSort now stored episode = some last ∧
      (last.isTerminal = true ↔ ∀ other ∈ stored,
        buildProfileEpisodeConsolidationKey platform
            (normalizeProfileMemoryEpisode platform now episode) =
          buildProfileEpisodeConsolidationKey platform
            (normalizeProfileMemoryEpisode platform now other) → other.isTerminal = true) := by
  unfold loadEpisodes representativeOf
  dsimp only
  set episodes := stored.map (normalizeProfileMemoryEpisode platform now) with hepisodes
  set normalized := normalizeProfileMemoryEpisode platform now episode with hnormalized
  have hin : normalized ∈ episodes := List.mem_map_of_mem hmem
  split_ifs with hshorter
  · have hgroup : normalized ∈ duplicatesOf platform
        (buildProfileEpisodeConsolidationKey platform normalized) episodes :=
      List.mem_filter.mpr ⟨hin, by simp⟩
    cases hcase : duplicatesOf platform
        (buildProfileEpisodeConsolidationKey platform normalized) episodes with
    | nil =>
        rw [hcase] at hgroup
        cases hgroup
    | cons first rest =>
        have hfind := @find_consolidatedByKey platform episodes
          (buildProfileEpisodeConsolidationKey platform normalized)
        rw [hcase] at hfind
        refine ⟨foldEpisodes platform first rest, ?_, by rw [hfind]; rfl, ?_⟩
        · rw [consolidated_of_shorter hshorter]
          refine (sortEpisodes_perm platform hostSort _).mem_iff.mpr (List.mem_map.mpr
            ⟨(buildProfileEpisodeConsolidationKey platform normalized,
              foldEpisodes platform first rest), ?_, rfl⟩)
          exact (KeyedMerge.mem_of_find _ hfind).1
        · rw [isTerminal_foldEpisodes, ← hcase, List.all_eq_true]
          constructor
          · intro hall other hother hkey
            have hnormal : normalizeProfileMemoryEpisode platform now other ∈ duplicatesOf platform
                (buildProfileEpisodeConsolidationKey platform normalized) episodes :=
              List.mem_filter.mpr ⟨List.mem_map_of_mem hother, by simpa using hkey.symm⟩
            have hkept := hall _ hnormal
            exact hkept
          · intro hall other hother
            obtain ⟨hmemOther, hkey⟩ := List.mem_filter.mp hother
            obtain ⟨source, hsource, rfl⟩ := List.mem_map.mp hmemOther
            exact hall source hsource (by simpa using (of_decide_eq_true hkey).symm)
  · refine ⟨normalized, hin, rfl, ?_⟩
    constructor
    · intro hterminal other hother hkey
      have hsame : normalized = normalizeProfileMemoryEpisode platform now other :=
        List.inj_on_of_nodup_map (nodup_keys_of_not_shorter hshorter) hin
          (List.mem_map_of_mem hother) hkey
      rw [hsame] at hterminal
      exact hterminal
    · exact fun hall => hall episode hmem rfl

lemma nodup_ids_load (h : (stored.map ProfileEpisodeRecord.id).Nodup) :
    ((loadEpisodes platform hostSort now stored).map ProfileEpisodeRecord.id).Nodup := by
  have hids : ((stored.map (normalizeProfileMemoryEpisode platform now)).map
      ProfileEpisodeRecord.id).Nodup := by
    rw [List.map_map]
    exact h
  unfold loadEpisodes
  dsimp only
  split_ifs with hshorter
  · rw [consolidated_of_shorter hshorter]
    exact ((sortEpisodes_perm platform hostSort _).map _).nodup_iff.mpr (ids_consolidated hids)
  · exact hids

end Loads

/-! ## The invariant -/

section Closed

variable {platform hostSort} {start middle episodes next : List ProfileEpisodeRecord}
  {events : List EpisodeEvent} {event : EpisodeEvent}

lemma nodup_ids_step (h : (episodes.map ProfileEpisodeRecord.id).Nodup)
    (hstep : episodeStep platform hostSort episodes event = some next) :
    (next.map ProfileEpisodeRecord.id).Nodup := by
  cases event with
  | load now =>
      cases hstep
      exact nodup_ids_load h
  | candidates now readings candidates =>
      simp only [episodeStep] at hstep
      split_ifs at hstep with hfresh
      cases hstep
      exact hfresh
  | resolutions now resolutions =>
      cases hstep
      exact (resolutions_carry now episodes resolutions).2.nodup_iff.mpr h

/-- What an event leaves of a closed episode, where the event meets the condition. -/
lemma closed_step (h : (episodes.map ProfileEpisodeRecord.id).Nodup)
    (hapart : ClosedApart platform episodes event)
    (hstep : episodeStep platform hostSort episodes event = some next)
    {episode last : ProfileEpisodeRecord} (hepisode : episode ∈ episodes)
    (hclosed : episode.isTerminal = true) (hlast : last ∈ next)
    (hrepresented : RepresentedBy platform hostSort episodes episode last event) :
    last.isTerminal = true := by
  have hids := nodup_ids_step h hstep
  have hcarried : CarriedOn episodes next → last.id = episode.id → last.isTerminal = true := by
    intro hcarried hid
    obtain ⟨kept, hkept, hkeptId, hkeptClosed⟩ := hcarried episode hepisode
    obtain rfl : kept = last := List.inj_on_of_nodup_map hids hkept hlast (hkeptId.trans hid.symm)
    exact hkeptClosed hclosed
  cases event with
  | load now =>
      obtain ⟨kept, -, hkept, hiff⟩ := @representativeOf_spec platform hostSort now episodes episode
        hepisode
      obtain rfl : kept = last := Option.some.inj (hkept.symm.trans hrepresented)
      exact hiff.mpr fun other hother hkey => hapart episode hepisode other hother hkey hclosed
  | candidates now readings candidates =>
      simp only [episodeStep] at hstep
      split_ifs at hstep
      cases hstep
      exact hcarried (carriedOn_candidates now readings episodes candidates) hrepresented
  | resolutions now resolutions =>
      cases hstep
      exact hcarried (resolutions_carry now episodes resolutions).1 hrepresented

lemma closed_of_represents (h : (episodes.map ProfileEpisodeRecord.id).Nodup)
    (halong : Along (episodeStep platform hostSort) (ClosedApart platform) episodes events)
    {episode last : ProfileEpisodeRecord} (hepisode : episode ∈ episodes)
    (hclosed : episode.isTerminal = true)
    (hrepresents : Represents platform hostSort episodes events episode last) :
    last.isTerminal = true := by
  induction hrepresents with
  | refl => exact hclosed
  | step hstep hmem hmiddle _ ih =>
      exact ih (nodup_ids_step h hstep) (halong.2 _ hstep) hmem
        (closed_step h halong.1 hstep hepisode hclosed hmem hmiddle)

/-- Closed episodes stay closed in a run exactly if no load of it meets a closed and an open one
of one key. -/
theorem closedStayClosed_iff (h : (start.map ProfileEpisodeRecord.id).Nodup) :
    ClosedStayClosed platform hostSort start events ↔
      Along (episodeStep platform hostSort) (ClosedApart platform) start events := by
  constructor
  · intro hclosed
    induction events generalizing start with
    | nil => exact trivial
    | cons event events ih =>
        refine ⟨?_, fun next hnext => ih (nodup_ids_step h hnext) ?_⟩
        · cases event with
          | load now =>
              intro episode hepisode other hother hkey hterminal
              obtain ⟨last, hlast, hrepresentative, hiff⟩ :=
                @representativeOf_spec platform hostSort now start episode hepisode
              have hrepresents : Represents platform hostSort start [.load now] episode last :=
                .step rfl hlast hrepresentative .refl
              exact hiff.mp (hclosed [] [.load now] events rfl start rfl episode hepisode hterminal
                last hrepresents) other hother hkey
          | _ => exact trivial
        · intro before between after hevents middle hmiddle
          refine hclosed (event :: before) between after (by rw [hevents]; rfl) middle ?_
          rw [Option.mem_def, run_cons, hnext]
          exact hmiddle
  · rintro halong before between after rfl middle hmiddle episode hepisode hterminal last hlast
    have hids : (middle.map ProfileEpisodeRecord.id).Nodup :=
      invariant_of_run (fun _ _ _ hinv hstep => nodup_ids_step hinv hstep) h hmiddle
    have hbetween : Along (episodeStep platform hostSort) (ClosedApart platform) middle between :=
      Along.of_run _ (Along.of_append _ halong) hmiddle
    exact closed_of_represents hids hbetween hepisode hterminal hlast

end Closed

/-! ## A closed episode that a load opens -/

lemma validDates_episode : ValidDates
    [("2026-01-01T00:00:00.000Z", 1767225600000), ("2026-01-02T00:00:00.000Z", 1767312000000)] := by
  decide

def episodePlatform : BridgePlatform :=
  .ofDates [("2026-01-01T00:00:00.000Z", 1767225600000), ("2026-01-02T00:00:00.000Z", 1767312000000)]
    validDates_episode

def moveCandidate (entityRefs : List String) : CreateProfileEpisodeRecordInput where
  title := "Ann moves flat"
  summary := "Ann is moving to another flat."
  sourceTaskId := "task-1"
  source := "user_input_pattern.episode"
  sourceKind := .explicitUserStatement
  sensitive := false
  observedAt := "2026-01-01T00:00:00.000Z"
  confidence := none
  status := none
  lastMentionedAt := none
  lastUpdatedAt := none
  resolvedAt := none
  entityRefs := entityRefs
  openLoopRefs := []
  tags := []

def moveReadings (id : String) : ℕ → EpisodeReadings :=
  fun _ => ⟨"2026-01-01T00:00:00.000Z", id⟩

def moveResolution (episodeId : String) (status : ProfileEpisodeStatus) (h : status ≠ .unresolved)
    (entityRefs : List String) : ProfileEpisodeResolutionInput where
  episodeId := episodeId
  status := status
  status_ne := h
  sourceTaskId := "task-2"
  source := "user_input_pattern.episode_resolution"
  observedAt := "2026-01-02T00:00:00.000Z"
  confidence := none
  summary := none
  entityRefs := entityRefs
  openLoopRefs := []
  tags := []

/-- Two episodes of one title; the first is closed, and a resolution of the second adds the entity
that told the two apart. -/
def moveEvents : List EpisodeEvent :=
  [.candidates "2026-01-01T00:00:00.000Z" (moveReadings "episode-1")
      [moveCandidate ["contact.ann", "contact.bob"]],
    .candidates "2026-01-01T00:00:00.000Z" (moveReadings "episode-2")
      [moveCandidate ["contact.ann"]],
    .resolutions "2026-01-02T00:00:00.000Z"
      [moveResolution "episode-1" .resolved (by decide) [],
        moveResolution "episode-2" .partiallyResolved (by decide) ["contact.bob"]],
    .load "2026-01-02T00:00:00.000Z"]

def moveEpisode (id : String) : ProfileEpisodeRecord :=
  createProfileEpisodeRecord episodePlatform id "2026-01-01T00:00:00.000Z"
    (moveCandidate ["contact.ann"])

end AgentBigBrain.Core
