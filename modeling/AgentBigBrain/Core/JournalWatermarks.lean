import AgentBigBrain.Core.MutationJournal
import AgentBigBrain.Lib.KeyedSelection
import AgentBigBrain.Lib.Runs

/-!
# Watermarks of the mutation journal

A graph batch appends an entry, prunes dangling references and compacts; a rekey appends and
compacts; a load normalizes what was saved and clamps both counters to what is retained. In every
state of every run the retained watermarks increase, below the next one and above the snapshot.
The next watermark goes down only when a load finds that the newest entries have been pruned;
where no load does, a watermark is never given to a second entry.
-/
namespace AgentBigBrain.Core

open AgentBigBrain.Js AgentBigBrain.Lib

/-! ## Operations -/

/-- The part of the graph state that holds the journal. -/
structure JournalLane where
  journal : ProfileMemoryMutationJournalState
  compaction : ProfileMemoryGraphCompactionState
  deriving DecidableEq

/-- What a load reads beside the saved lane: its time, and what the records of the graph come
to. -/
structure GraphLoad where
  updatedAt : String
  backfill : ReplayBackfillIds
  surviving : SurvivingRecordIds
  graphCompacted : Bool

structure GraphBatch where
  entry : JournalEntryInput
  surviving : SurvivingRecordIds
  graphCompacted : Bool

inductive JournalEvent where
  | batch (input : GraphBatch)
  | rekey (entry : JournalEntryInput)
  | compact (recordedAt : String)
  | saveAndLoad (load : GraphLoad)

section Operations

variable (platform : JournalPlatform)

def compactJournal (lane : JournalLane) (recordedAt : String) : JournalLane :=
  let result := compactProfileMemoryMutationJournalState lane.journal lane.compaction recordedAt
  ⟨result.1, result.2⟩

/-- The compactions of claims, observations and events that follow stamp the time again. -/
def stampGraphCompaction (graphCompacted : Bool) (recordedAt : String) (lane : JournalLane) :
    JournalLane :=
  if graphCompacted then
    { lane with compaction := { lane.compaction with lastCompactedAt := some recordedAt } }
  else
    lane

def applyProfileMemoryGraphMutations (lane : JournalLane) (input : GraphBatch) : JournalLane :=
  let appended := appendProfileMemoryMutationJournalEntry platform lane.journal input.entry
  let pruned := pruneProfileMemoryMutationJournalReferences platform appended input.surviving
  stampGraphCompaction input.graphCompacted input.entry.recordedAt
    (compactJournal ⟨pruned, lane.compaction⟩ input.entry.recordedAt)

def applyProfileMemoryGraphStableRefRekey (lane : JournalLane) (entry : JournalEntryInput) :
    JournalLane :=
  compactJournal ⟨appendProfileMemoryMutationJournalEntry platform lane.journal entry,
    lane.compaction⟩ entry.recordedAt

/-- The two lanes after the clamps, before the journal is repaired. -/
def clampedLane (rawJournal rawCompaction : Option Json) (updatedAt : String) : JournalLane :=
  let journal := normalizeProfileMemoryMutationJournalState platform rawJournal updatedAt
  let replaySafeCompaction := clampProfileMemoryGraphCompactionSnapshotWatermark
    (normalizeProfileMemoryGraphCompactionState platform rawCompaction) journal
  ⟨clampProfileMemoryGraphMutationJournalNextWatermark replaySafeCompaction journal,
    replaySafeCompaction⟩

/-- The journal part of `normalizeProfileMemoryGraphState`. -/
def normalizeGraphJournal (rawJournal rawCompaction : Option Json) (load : GraphLoad) :
    JournalLane :=
  let clamped := clampedLane platform rawJournal rawCompaction load.updatedAt
  let repaired := appendProfileMemoryGraphReplayBackfillEntries platform clamped.journal
    load.updatedAt load.backfill
  let pruned := pruneProfileMemoryMutationJournalReferences platform repaired load.surviving
  stampGraphCompaction load.graphCompacted load.updatedAt
    (compactJournal ⟨pruned, clamped.compaction⟩ load.updatedAt)

/-- Nothing the journal does can fail. -/
def journalStep (lane : JournalLane) : JournalEvent → Option JournalLane
  | .batch input => some (applyProfileMemoryGraphMutations platform lane input)
  | .rekey entry => some (applyProfileMemoryGraphStableRefRekey platform lane entry)
  | .compact recordedAt => some (compactJournal lane recordedAt)
  | .saveAndLoad load =>
      some (normalizeGraphJournal platform (some lane.journal.toJson)
        (some lane.compaction.toJson) load)

end Operations

/-! ## Increasing watermarks -/

/-- Retained watermarks increase from 1 on and stay below the next one. -/
structure Stamped (state : ProfileMemoryMutationJournalState) : Prop where
  increasing : state.entries.Pairwise fun left right => left.watermark < right.watermark
  positive : ∀ entry ∈ state.entries, 0 < entry.watermark
  below : ∀ entry ∈ state.entries, entry.watermark < state.nextWatermark
  next_positive : 0 < state.nextWatermark

lemma Stamped.watermarks_nodup {state : ProfileMemoryMutationJournalState} (h : Stamped state) :
    (state.entries.map (·.watermark)).Nodup :=
  List.pairwise_map.mpr (h.increasing.imp fun hlt => Nat.ne_of_lt hlt)

lemma highestWatermark_lt_iff {entries : List ProfileMemoryMutationJournalEntry} {n : ℕ}
    (hn : 0 < n) : highestWatermark entries < n ↔ ∀ entry ∈ entries, entry.watermark < n := by
  have hfold : ∀ start : ℕ, entries.foldl (fun highest entry => max highest entry.watermark) start
      < n ↔ start < n ∧ ∀ entry ∈ entries, entry.watermark < n := by
    induction entries with
    | nil => simp
    | cons entry entries ih =>
        intro start
        simp only [List.foldl_cons, ih, max_lt_iff, List.forall_mem_cons, and_assoc]
  simpa [highestWatermark, hn] using hfold 0

lemma le_highestWatermark {entries : List ProfileMemoryMutationJournalEntry}
    {entry : ProfileMemoryMutationJournalEntry} (h : entry ∈ entries) :
    entry.watermark ≤ highestWatermark entries :=
  Nat.lt_succ_iff.mp ((highestWatermark_lt_iff (Nat.succ_pos _)).mp (Nat.lt_succ_self _) entry h)

lemma highestWatermark_le {entries : List ProfileMemoryMutationJournalEntry} {n : ℕ}
    (h : ∀ entry ∈ entries, entry.watermark ≤ n) : highestWatermark entries ≤ n :=
  Nat.lt_succ_iff.mp ((highestWatermark_lt_iff (Nat.succ_pos n)).mpr fun entry hentry =>
    Nat.lt_succ_of_le (h entry hentry))

/-! ### Restamping -/

lemma restamp_gt {candidates : List NormalizedJournalEntryCandidate} {previous : ℕ} :
    ∀ entry ∈ restamp previous candidates, previous < entry.watermark := by
  induction candidates generalizing previous with
  | nil => simp [restamp]
  | cons candidate rest ih =>
      intro entry hentry
      rcases List.mem_cons.mp hentry with rfl | hentry
      · exact Nat.lt_of_lt_of_le (Nat.lt_succ_self previous) (le_max_left _ _)
      · have hlater := ih entry hentry
        have hstamp := le_max_left (previous + 1) candidate.entry.watermark
        omega

lemma restamp_increasing (candidates : List NormalizedJournalEntryCandidate) (previous : ℕ) :
    (restamp previous candidates).Pairwise fun left right => left.watermark < right.watermark := by
  induction candidates generalizing previous with
  | nil => exact List.Pairwise.nil
  | cons candidate rest ih => exact List.Pairwise.cons restamp_gt (ih _)

/-- Entries that increase already keep their watermarks. -/
lemma restamp_of_increasing {candidates : List NormalizedJournalEntryCandidate} {previous : ℕ}
    (hincreasing : candidates.Pairwise fun left right =>
      left.entry.watermark < right.entry.watermark)
    (hprevious : ∀ candidate ∈ candidates, previous < candidate.entry.watermark) :
    restamp previous candidates = candidates.map (·.entry) := by
  induction candidates generalizing previous with
  | nil => rfl
  | cons candidate rest ih =>
      obtain ⟨hlater, hrest⟩ := List.pairwise_cons.mp hincreasing
      have hstamp : max (previous + 1) candidate.entry.watermark = candidate.entry.watermark :=
        max_eq_right (hprevious candidate List.mem_cons_self)
      simp only [restamp, hstamp, ih hrest hlater, List.map_cons]

/-- Whatever was stored, the normalized journal is in order. -/
theorem stamped_normalize (platform : JournalPlatform) (raw : Option Json) (fallback : String) :
    Stamped (normalizeProfileMemoryMutationJournalState platform raw fallback) := by
  unfold normalizeProfileMemoryMutationJournalState
  cases membersOf raw with
  | none => exact ⟨List.Pairwise.nil, by simp [createEmptyProfileMemoryMutationJournalState],
      by simp [createEmptyProfileMemoryMutationJournalState], Nat.one_pos⟩
  | some members =>
      dsimp only
      generalize hentries : normalizeJournalEntries platform _ = entries
      have hgt : ∀ entry ∈ entries, 0 < entry.watermark := hentries ▸ restamp_gt
      have hnext : ∀ stored : Option ℕ, highestWatermark entries <
          (stored.filter (highestWatermark entries < ·)).getD (highestWatermark entries + 1) := by
        intro stored
        cases hkept : stored.filter (highestWatermark entries < ·) with
        | none => exact Nat.lt_succ_self _
        | some next => simpa using (Option.filter_eq_some_iff.mp hkept).2
      have hhighest := hnext (positiveOf (members.lookup "nextWatermark"))
      refine ⟨hentries ▸ restamp_increasing _ _, hgt, ?_, (Nat.zero_le _).trans_lt hhighest⟩
      intro entry hentry
      exact Nat.lt_of_le_of_lt (le_highestWatermark hentry) hhighest

/-! ## Entries that are the same -/

/-- An entry after its references were pruned or it was read back: same watermark and sources, no
new references. -/
structure Continues (old new : ProfileMemoryMutationJournalEntry) : Prop where
  watermark : new.watermark = old.watermark
  sourceTaskId : normalizeOptionalMetadataString new.sourceTaskId =
    normalizeOptionalMetadataString old.sourceTaskId
  sourceFingerprint : normalizeOptionalMetadataString new.sourceFingerprint =
    normalizeOptionalMetadataString old.sourceFingerprint
  mutationEnvelopeHash : normalizeOptionalMetadataString new.mutationEnvelopeHash =
    normalizeOptionalMetadataString old.mutationEnvelopeHash
  redactionState : new.redactionState = old.redactionState
  observationIds : new.observationIds.map trim ⊆ old.observationIds.map trim
  claimIds : new.claimIds.map trim ⊆ old.claimIds.map trim
  eventIds : new.eventIds.map trim ⊆ old.eventIds.map trim

namespace Continues

lemma refl (entry : ProfileMemoryMutationJournalEntry) : Continues entry entry :=
  ⟨rfl, rfl, rfl, rfl, rfl, List.Subset.refl _, List.Subset.refl _, List.Subset.refl _⟩

lemma trans {first second third : ProfileMemoryMutationJournalEntry}
    (h : Continues first second) (h' : Continues second third) : Continues first third where
  watermark := h'.watermark.trans h.watermark
  sourceTaskId := h'.sourceTaskId.trans h.sourceTaskId
  sourceFingerprint := h'.sourceFingerprint.trans h.sourceFingerprint
  mutationEnvelopeHash := h'.mutationEnvelopeHash.trans h.mutationEnvelopeHash
  redactionState := h'.redactionState.trans h.redactionState
  observationIds := List.Subset.trans h'.observationIds h.observationIds
  claimIds := List.Subset.trans h'.claimIds h.claimIds
  eventIds := List.Subset.trans h'.eventIds h.eventIds

/-- The id of an entry does not matter. -/
lemma rename {old new : ProfileMemoryMutationJournalEntry} (h : Continues old new) (id : String) :
    Continues old { new with journalEntryId := id } :=
  ⟨h.watermark, h.sourceTaskId, h.sourceFingerprint, h.mutationEnvelopeHash, h.redactionState,
    h.observationIds, h.claimIds, h.eventIds⟩

end Continues

lemma trimmedText_trim {text : String} (h : isPresent text = true) :
    trimmedText (trim text) = trimmedText text := by
  simp [trimmedText, h]

lemma normalizeOptionalMetadataString_idem (value : Option String) :
    normalizeOptionalMetadataString (normalizeOptionalMetadataString value) =
      normalizeOptionalMetadataString value := by
  cases value with
  | none => rfl
  | some text =>
      by_cases h : isPresent text = true
      · simp [normalizeOptionalMetadataString, trimmedText, h]
      · simp [normalizeOptionalMetadataString, trimmedText, h]

lemma trim_mem_of_mem_dedupe {platform : JournalPlatform} {values : List String} :
    (dedupeSortedStrings platform values).map trim ⊆ values.map trim := by
  intro x hx
  obtain ⟨y, hy, rfl⟩ := List.mem_map.mp hx
  obtain ⟨value, hvalue, htrim⟩ : ∃ value ∈ values, trimmedText value = some y := by
    simpa [dedupeSortedStrings] using hy
  obtain ⟨-, rfl⟩ : isPresent value = true ∧ trim value = y := by
    simpa [trimmedText] using htrim
  exact List.mem_map.mpr ⟨value, hvalue, by simp⟩

lemma trim_mem_of_mem_pruned {platform : JournalPlatform} {values : List String}
    {kept : String → Bool} :
    (dedupeSortedStrings platform (values.filter kept)).map trim ⊆ values.map trim :=
  List.Subset.trans trim_mem_of_mem_dedupe (List.map_subset trim (List.filter_subset_self _))

/-! ## Reading back -/

/-- What a saved entry with a watermark is read back as. -/
structure ReadBack (entry : ProfileMemoryMutationJournalEntry)
    (candidate : NormalizedJournalEntryCandidate) : Prop where
  continues : Continues entry candidate.entry
  kept : candidate.watermarkRecovered = false

@[simp] lemma readRedactionState_text (state : JournalRedactionState) :
    readRedactionState (some (.str state.text)) = some state := by
  cases state <;> decide

@[simp] lemma textElements_textArray (texts : List String) :
    textElements (some (textArray texts)) = texts :=
  filterMap_textOf_map_str texts

/-- A saved entry keeps its watermark; its texts are trimmed already or are trimmed now. -/
lemma readJournalEntry_toJson (platform : JournalPlatform) (fallback : String)
    {entry : ProfileMemoryMutationJournalEntry} (h : 0 < entry.watermark) :
    ∃ candidate, readJournalEntry platform fallback entry.toJson = some candidate ∧
      ReadBack entry candidate := by
  have hwatermark : positiveOf (entry.members.lookup "watermark") = some entry.watermark :=
    positiveOf_countJson h
  refine ⟨readJournalMembers platform fallback entry.members entry.redactionState, ?_, ?_, ?_⟩
  · have hredaction : readRedactionState (entry.members.lookup "redactionState") =
        some entry.redactionState := readRedactionState_text entry.redactionState
    simp only [readJournalEntry, ProfileMemoryMutationJournalEntry.toJson, membersOf_obj,
      Option.bind_some, hredaction, Option.map_some]
  · have htext : ∀ text : Option String, normalizeOptionalMetadataString
        (normalizeOptionalMetadataString (textOf (some (textOrNull text)))) =
          normalizeOptionalMetadataString text := by
      intro text
      rw [normalizeOptionalMetadataString_idem, textOf_textOrNull]
    have hids : ∀ ids : List String,
        (dedupeSortedStrings platform (textElements (some (textArray ids)))).map trim ⊆
          ids.map trim := by
      intro ids
      rw [textElements_textArray]
      exact trim_mem_of_mem_dedupe
    refine Continues.rename ?_ _
    exact ⟨by simp only [withCanonicalEntryId, hwatermark, Option.getD_some],
      htext entry.sourceTaskId, htext entry.sourceFingerprint, htext entry.mutationEnvelopeHash,
      rfl, hids entry.observationIds, hids entry.claimIds, hids entry.eventIds⟩
  · simp only [readJournalMembers, hwatermark, Option.isNone_some]

lemma forall₂_filterMap {α β : Type*} {read : α → Option β} {R : α → β → Prop} {xs : List α}
    (h : ∀ x ∈ xs, ∃ y, read x = some y ∧ R x y) : List.Forall₂ R xs (xs.filterMap read) := by
  induction xs with
  | nil => exact List.Forall₂.nil
  | cons x xs ih =>
      obtain ⟨y, hy, hR⟩ := h x List.mem_cons_self
      rw [List.filterMap_cons_some hy]
      exact List.Forall₂.cons hR (ih fun z hz => h z (List.mem_cons_of_mem x hz))

/-! ## Duplicates -/

section Duplicates

variable {platform : JournalPlatform}

/-- A candidate that stands for another one: the same but for its id. -/
def StandsFor (original candidate : NormalizedJournalEntryCandidate) : Prop :=
  candidate.watermarkRecovered = original.watermarkRecovered ∧
    candidate.entry = { original.entry with journalEntryId := candidate.entry.journalEntryId }

lemma mem_representatives {candidates : List NormalizedJournalEntryCandidate}
    {candidate : NormalizedJournalEntryCandidate}
    (h : candidate ∈ dedupeJournalEntries platform candidates) :
    ∃ original ∈ candidates, StandsFor original candidate := by
  have hkept : ∀ kept ∈ (candidatesById platform).collect [] candidates, kept ∈ candidates :=
    (candidatesById platform).forall_collect (by simp) (fun _ hx => hx) fun x y _ hx hy => by
      unfold candidatesById
      dsimp only
      split_ifs
      · exact hy
      · exact hx
  obtain ⟨group, hgroup, rfl⟩ := List.mem_map.mp h
  have hcandidate : group.candidate ∈ candidates := by
    refine (groupsByCanonicalPayload platform).forall_collect
      (P := fun group => group.candidate ∈ candidates) (by simp) ?_ ?_ group hgroup
    · intro single hsingle
      obtain ⟨kept, hmem, rfl⟩ := List.mem_map.mp hsingle
      exact hkept kept hmem
    · intro x y _ hx hy
      unfold groupsByCanonicalPayload
      dsimp only
      split_ifs
      · exact hy
      · exact hx
  refine ⟨group.candidate, hcandidate, ?_⟩
  unfold representative
  split_ifs
  · exact ⟨rfl, rfl⟩
  · exact ⟨rfl, rfl⟩

lemma representative_watermark (group : CanonicalGroup) :
    (representative platform group).entry.watermark = group.candidate.entry.watermark := by
  unfold representative
  split_ifs
  · rfl
  · rfl

/-- No watermark is met twice after the duplicates are gone, if none was before. -/
lemma dedupe_watermarks_nodup {candidates : List NormalizedJournalEntryCandidate}
    (h : (candidates.map (·.entry.watermark)).Nodup) :
    ((dedupeJournalEntries platform candidates).map (·.entry.watermark)).Nodup := by
  have hbyId : (((candidatesById platform).collect [] candidates).map (·.entry.watermark)).Nodup :=
    (candidatesById platform).map_collect_nodup (fun x y => by
      unfold candidatesById
      dsimp only
      split_ifs
      · exact Or.inr rfl
      · exact Or.inl rfl) h
  let groups : List CanonicalGroup :=
    ((candidatesById platform).collect [] candidates).map fun candidate => ⟨candidate, 1⟩
  have hsingle : (groups.map fun group => group.candidate.entry.watermark).Nodup := by
    simpa [groups, List.map_map, Function.comp_def] using hbyId
  have hgroups := (groupsByCanonicalPayload platform).map_collect_nodup (fun x y => by
      unfold groupsByCanonicalPayload
      dsimp only
      split_ifs
      · exact Or.inr rfl
      · exact Or.inl rfl) hsingle
  unfold dedupeJournalEntries
  simpa [List.map_map, Function.comp_def, representative_watermark] using hgroups

/-- The fresher of two entries has the higher watermark. -/
lemma watermark_le_of_isFresher (platform : JournalPlatform)
    (existing candidate : ProfileMemoryMutationJournalEntry) :
    if isFresher platform existing candidate then existing.watermark ≤ candidate.watermark
    else candidate.watermark ≤ existing.watermark := by
  unfold isFresher compareJournalEntryFreshness
  by_cases hsame : candidate.watermark = existing.watermark
  · simp [hsame]
  · by_cases hle : candidate.watermark ≤ existing.watermark
    · simp [hsame, hle]
    · simp [hsame, hle, Nat.le_of_lt (Nat.lt_of_not_le hle)]

lemma exists_watermark_le_dedupe {candidates : List NormalizedJournalEntryCandidate}
    {candidate : NormalizedJournalEntryCandidate} (h : candidate ∈ candidates) :
    ∃ kept ∈ dedupeJournalEntries platform candidates,
      candidate.entry.watermark ≤ kept.entry.watermark := by
  obtain ⟨byId, hbyId, hle⟩ := (candidatesById platform).exists_rank_le_collect
    (fun candidate => candidate.entry.watermark) (fun x y => by
      have hrank := watermark_le_of_isFresher platform x.entry y.entry
      unfold candidatesById
      dsimp only
      split_ifs at hrank ⊢
      · exact ⟨hrank, le_rfl⟩
      · exact ⟨le_rfl, hrank⟩) [] (Or.inr h)
  obtain ⟨group, hgroup, hle'⟩ := (groupsByCanonicalPayload platform).exists_rank_le_collect
    (fun group => group.candidate.entry.watermark) (fun x y => by
      have hrank := watermark_le_of_isFresher platform x.candidate.entry
        y.candidate.entry
      unfold groupsByCanonicalPayload
      dsimp only
      split_ifs at hrank ⊢
      · exact ⟨hrank, le_rfl⟩
      · exact ⟨le_rfl, hrank⟩) [] (Or.inr (List.mem_map.mpr ⟨byId, hbyId, rfl⟩))
  refine ⟨representative platform group, List.mem_map_of_mem hgroup, ?_⟩
  rw [representative_watermark]
  exact hle.trans hle'

end Duplicates

/-! ## Extending a journal -/

/-- No counter goes down, and what lies below the old counter was there before. -/
structure Extends (before after : ProfileMemoryMutationJournalState) : Prop where
  counter : before.nextWatermark ≤ after.nextWatermark
  old : ∀ entry ∈ after.entries, entry.watermark < before.nextWatermark →
    ∃ original ∈ before.entries, Continues original entry

namespace Extends

lemma refl (state : ProfileMemoryMutationJournalState) : Extends state state :=
  ⟨le_rfl, fun entry hentry _ => ⟨entry, hentry, Continues.refl entry⟩⟩

lemma trans {first second third : ProfileMemoryMutationJournalState} (h : Extends first second)
    (h' : Extends second third) : Extends first third := by
  refine ⟨h.counter.trans h'.counter, fun entry hentry hlt => ?_⟩
  obtain ⟨middle, hmiddle, hcontinues⟩ :=
    h'.old entry hentry (Nat.lt_of_lt_of_le hlt h.counter)
  obtain ⟨original, horiginal, hfirst⟩ :=
    h.old middle hmiddle (hcontinues.watermark ▸ hlt)
  exact ⟨original, horiginal, hfirst.trans hcontinues⟩

/-- Where the counter is the same, every entry continues one. -/
lemma of_continues {before after : ProfileMemoryMutationJournalState}
    (hcounter : after.nextWatermark = before.nextWatermark)
    (h : ∀ entry ∈ after.entries, ∃ original ∈ before.entries, Continues original entry) :
    Extends before after :=
  ⟨hcounter.ge, fun entry hentry _ => h entry hentry⟩

end Extends

/-! ### Reading a saved journal -/

section Saved

variable {platform : JournalPlatform}

lemma StandsFor.watermark {original candidate : NormalizedJournalEntryCandidate}
    (h : StandsFor original candidate) : candidate.entry.watermark = original.entry.watermark := by
  rw [h.2]

/-- Among entries with watermarks of their own, the replay order is that of the watermarks. -/
lemma replayOrder_eq {candidates : List NormalizedJournalEntryCandidate}
    (hkept : ∀ candidate ∈ candidates, candidate.watermarkRecovered = false)
    (hnodup : (candidates.map (·.entry.watermark)).Nodup) :
    ∀ left ∈ candidates, ∀ right ∈ candidates,
      compareJournalEntryCandidateReplayOrder platform left right =
        ((numberOrder ℕ).byKey (·.entry.watermark)).le left right := by
  intro left hleft right hright
  by_cases hsame : left.entry.watermark = right.entry.watermark
  · obtain rfl : left = right := List.inj_on_of_nodup_map hnodup hleft hright hsame
    simp [compareJournalEntryCandidateReplayOrder, compareJournalEntryReplayOrder,
      compareJournalEntryIds, localeThen, hkept left hleft]
  · simp [compareJournalEntryCandidateReplayOrder, compareJournalEntryReplayOrder,
      hkept left hleft, hkept right hright, hsame, numberOrder]

/-- Entries with distinct watermarks of their own keep them. -/
lemma normalizeJournalEntries_eq {candidates : List NormalizedJournalEntryCandidate}
    (hkept : ∀ candidate ∈ candidates, candidate.watermarkRecovered = false)
    (hpositive : ∀ candidate ∈ candidates, 0 < candidate.entry.watermark)
    (hnodup : (candidates.map (·.entry.watermark)).Nodup) :
    normalizeJournalEntries platform candidates =
      (((numberOrder ℕ).byKey (·.entry.watermark)).sort
        (dedupeJournalEntries platform candidates)).map (·.entry) := by
  let order : Comparator NormalizedJournalEntryCandidate :=
    (numberOrder ℕ).byKey (·.entry.watermark)
  let deduped := dedupeJournalEntries platform candidates
  have hdeduped : ∀ candidate ∈ deduped, candidate.watermarkRecovered = false ∧
      0 < candidate.entry.watermark := by
    intro candidate hcandidate
    obtain ⟨original, horiginal, hstands⟩ := mem_representatives hcandidate
    exact ⟨hstands.1.trans (hkept original horiginal),
      hstands.watermark ▸ hpositive original horiginal⟩
  have hdistinct : (deduped.map (·.entry.watermark)).Nodup := dedupe_watermarks_nodup hnodup
  have hsort : platform.hostSort.sort (compareJournalEntryCandidateReplayOrder platform) deduped =
      order.sort deduped :=
    platform.hostSort.sort_eq order _ _ (replayOrder_eq (fun c hc => (hdeduped c hc).1) hdistinct)
  have hsortedDistinct : ((order.sort deduped).map (·.entry.watermark)).Nodup :=
    (((order.sort_perm deduped).map _).nodup_iff).mpr hdistinct
  have hincreasing : (order.sort deduped).Pairwise fun left right =>
      left.entry.watermark < right.entry.watermark := by
    refine ((order.sorted_sort deduped).and (List.pairwise_map.mp hsortedDistinct)).imp ?_
    intro left right h
    have hle : left.entry.watermark ≤ right.entry.watermark := of_decide_eq_true h.1
    exact Nat.lt_of_le_of_ne hle h.2
  unfold normalizeJournalEntries
  rw [hsort]
  exact restamp_of_increasing hincreasing fun c hc => (hdeduped c (order.mem_sort.mp hc)).2

variable (platform) in
/-- The candidates that a load makes of saved entries. -/
def savedCandidates (fallback : String) (entries : List ProfileMemoryMutationJournalEntry) :
    List NormalizedJournalEntryCandidate :=
  (entries.map ProfileMemoryMutationJournalEntry.toJson).filterMap
    (readJournalEntry platform fallback)

section Candidates

variable {fallback : String} {entries : List ProfileMemoryMutationJournalEntry}
  (h : ∀ entry ∈ entries, 0 < entry.watermark)

include h

lemma savedCandidates_readBack :
    List.Forall₂ ReadBack entries (savedCandidates platform fallback entries) := by
  unfold savedCandidates
  rw [List.filterMap_map]
  exact forall₂_filterMap fun entry hentry =>
    readJournalEntry_toJson platform fallback (h entry hentry)

lemma savedCandidates_watermarks :
    (savedCandidates platform fallback entries).map (·.entry.watermark) =
      entries.map (·.watermark) := by
  have hread : List.Forall₂ ReadBack entries (savedCandidates platform fallback entries) :=
    savedCandidates_readBack h
  refine List.ext_get ?_ ?_
  · simpa using hread.length_eq.symm
  · intro n hn hn'
    have hentry := hread.get (by simpa using hn') (by simpa using hn)
    simpa using hentry.continues.watermark

lemma exists_readBack {candidate : NormalizedJournalEntryCandidate}
    (hcandidate : candidate ∈ savedCandidates platform fallback entries) :
    ∃ entry ∈ entries, ReadBack entry candidate := by
  have hread : List.Forall₂ ReadBack entries (savedCandidates platform fallback entries) :=
    savedCandidates_readBack h
  obtain ⟨n, hn, rfl⟩ := List.getElem_of_mem hcandidate
  have hlength : n < entries.length := hread.length_eq ▸ hn
  exact ⟨entries[n], List.getElem_mem hlength, hread.get hlength hn⟩

variable (hnodup : (entries.map (·.watermark)).Nodup)

include hnodup

lemma normalize_savedCandidates :
    normalizeJournalEntries platform (savedCandidates platform fallback entries) =
      (((numberOrder ℕ).byKey (·.entry.watermark)).sort
        (dedupeJournalEntries platform (savedCandidates platform fallback entries))).map
          (·.entry) := by
  refine normalizeJournalEntries_eq (fun candidate hcandidate => ?_)
    (fun candidate hcandidate => ?_) ?_
  · obtain ⟨entry, -, hback⟩ := exists_readBack h hcandidate
    exact hback.kept
  · obtain ⟨entry, hentry, hback⟩ := exists_readBack h hcandidate
    exact hback.continues.watermark ▸ h entry hentry
  · rw [savedCandidates_watermarks h]
    exact hnodup

lemma savedCandidates_continue {entry : ProfileMemoryMutationJournalEntry}
    (hentry : entry ∈
      normalizeJournalEntries platform (savedCandidates platform fallback entries)) :
    ∃ original ∈ entries, Continues original entry := by
  rw [normalize_savedCandidates h hnodup] at hentry
  obtain ⟨kept, hkept, rfl⟩ := List.mem_map.mp hentry
  obtain ⟨candidate, hcandidate, hstands⟩ := mem_representatives ((Comparator.mem_sort _).mp hkept)
  obtain ⟨original, horiginal, hback⟩ := exists_readBack h hcandidate
  refine ⟨original, horiginal, ?_⟩
  rw [hstands.2]
  exact hback.continues.rename _

/-- Reading back may drop duplicates, but not the newest watermark. -/
lemma highestWatermark_savedCandidates :
    highestWatermark
        (normalizeJournalEntries platform (savedCandidates platform fallback entries)) =
      highestWatermark entries := by
  refine le_antisymm ?_ ?_
  · refine highestWatermark_le fun entry hentry => ?_
    obtain ⟨original, horiginal, hcontinues⟩ := savedCandidates_continue h hnodup hentry
    exact hcontinues.watermark ▸ le_highestWatermark horiginal
  · refine highestWatermark_le fun entry hentry => ?_
    have hmem : entry.watermark ∈
        (savedCandidates platform fallback entries).map (·.entry.watermark) := by
      rw [savedCandidates_watermarks h]
      exact List.mem_map_of_mem hentry
    obtain ⟨candidate, hcandidate, hsame⟩ := List.mem_map.mp hmem
    obtain ⟨kept, hkept, hle⟩ := exists_watermark_le_dedupe hcandidate
    have hin : kept.entry ∈
        normalizeJournalEntries platform (savedCandidates platform fallback entries) := by
      rw [normalize_savedCandidates h hnodup]
      exact List.mem_map_of_mem ((Comparator.mem_sort _).mpr hkept)
    exact hsame ▸ hle.trans (le_highestWatermark hin)

end Candidates

variable (platform) in
/-- What a saved journal in order is read back as. -/
theorem normalize_toJson {state : ProfileMemoryMutationJournalState} (h : Stamped state)
    (fallback : String) :
    let read := normalizeProfileMemoryMutationJournalState platform (some state.toJson) fallback
    read.nextWatermark = state.nextWatermark ∧
      (∀ entry ∈ read.entries, ∃ original ∈ state.entries, Continues original entry) ∧
      highestWatermark read.entries = highestWatermark state.entries := by
  have hhighest : highestWatermark (normalizeJournalEntries platform
      (savedCandidates platform fallback state.entries)) = highestWatermark state.entries :=
    highestWatermark_savedCandidates h.positive h.watermarks_nodup
  have hbelow : highestWatermark state.entries < state.nextWatermark :=
    (highestWatermark_lt_iff h.next_positive).mpr h.below
  have hstored : positiveOf (some (countJson state.nextWatermark)) = some state.nextWatermark :=
    positiveOf_countJson h.next_positive
  have hread : normalizeProfileMemoryMutationJournalState platform (some state.toJson) fallback =
      ⟨state.nextWatermark,
        normalizeJournalEntries platform (savedCandidates platform fallback state.entries)⟩ := by
    have hunfold : normalizeProfileMemoryMutationJournalState platform (some state.toJson)
        fallback =
          ⟨((positiveOf (some (countJson state.nextWatermark))).filter (highestWatermark
              (normalizeJournalEntries platform (savedCandidates platform fallback state.entries))
                < ·)).getD (highestWatermark (normalizeJournalEntries platform
                  (savedCandidates platform fallback state.entries)) + 1),
            normalizeJournalEntries platform (savedCandidates platform fallback state.entries)⟩ :=
      rfl
    rw [hunfold, hstored, hhighest]
    simp [Option.filter_some, hbelow]
  rw [hread]
  exact ⟨rfl, fun entry hentry => savedCandidates_continue h.positive h.watermarks_nodup hentry,
    hhighest⟩

end Saved

/-! ## What each operation keeps -/

section Steps

variable (platform : JournalPlatform)

/-- An append adds one entry under the counter, or nothing. -/
lemma append_cases (state : ProfileMemoryMutationJournalState) (input : JournalEntryInput) :
    appendProfileMemoryMutationJournalEntry platform state input = state ∨
      appendProfileMemoryMutationJournalEntry platform state input =
        ⟨state.nextWatermark + 1, state.entries ++ [journalEntryOf platform state input]⟩ := by
  unfold appendProfileMemoryMutationJournalEntry
  dsimp only
  split_ifs
  · exact Or.inl rfl
  · exact Or.inl rfl
  · exact Or.inr rfl

/-- A journal in order, above a snapshot. -/
structure InWindow (snapshotWatermark : ℕ) (state : ProfileMemoryMutationJournalState) : Prop
    extends Stamped state where
  above : ∀ entry ∈ state.entries, snapshotWatermark < entry.watermark
  snapshot_below : snapshotWatermark < state.nextWatermark

/-- The journal of a lane is in order above the lane's snapshot. -/
def JournalLane.InOrder (lane : JournalLane) : Prop :=
  InWindow lane.compaction.snapshotWatermark lane.journal

lemma InWindow.inOrder {journal : ProfileMemoryMutationJournalState}
    {compaction : ProfileMemoryGraphCompactionState}
    (h : InWindow compaction.snapshotWatermark journal) :
    JournalLane.InOrder ⟨journal, compaction⟩ := h

lemma append_inWindow {snapshot : ℕ} {state : ProfileMemoryMutationJournalState}
    (h : InWindow snapshot state) (input : JournalEntryInput) :
    InWindow snapshot (appendProfileMemoryMutationJournalEntry platform state input) := by
  rcases append_cases platform state input with hsame | hadded
  · rw [hsame]
    exact h
  · rw [hadded]
    have hnew : (journalEntryOf platform state input).watermark = state.nextWatermark := rfl
    have hmem : ∀ entry ∈ state.entries ++ [journalEntryOf platform state input],
        entry ∈ state.entries ∨ entry.watermark = state.nextWatermark := by
      intro entry hentry
      rcases List.mem_append.mp hentry with hold | hlast
      · exact Or.inl hold
      · exact Or.inr (List.mem_singleton.mp hlast ▸ hnew)
    refine ⟨⟨?_, ?_, ?_, Nat.succ_pos _⟩, ?_, Nat.lt_succ_of_lt h.snapshot_below⟩
    · refine List.pairwise_append.mpr ⟨h.increasing, List.pairwise_singleton _ _, ?_⟩
      intro entry hentry last hlast
      rw [List.mem_singleton.mp hlast, hnew]
      exact h.below entry hentry
    · intro entry hentry
      rcases hmem entry hentry with hold | heq
      · exact h.positive entry hold
      · exact heq ▸ h.next_positive
    · intro entry hentry
      rcases hmem entry hentry with hold | heq
      · exact Nat.lt_succ_of_lt (h.below entry hold)
      · exact heq ▸ Nat.lt_succ_self _
    · intro entry hentry
      rcases hmem entry hentry with hold | heq
      · exact h.above entry hold
      · exact heq ▸ h.snapshot_below

lemma append_extends (state : ProfileMemoryMutationJournalState) (input : JournalEntryInput) :
    Extends state (appendProfileMemoryMutationJournalEntry platform state input) := by
  rcases append_cases platform state input with hsame | hadded
  · rw [hsame]
    exact Extends.refl state
  · rw [hadded]
    refine ⟨Nat.le_succ _, fun entry hentry hlt => ?_⟩
    rcases List.mem_append.mp hentry with hold | hlast
    · exact ⟨entry, hold, Continues.refl entry⟩
    · have hnew : entry.watermark = state.nextWatermark := by rw [List.mem_singleton.mp hlast]; rfl
      exact absurd hlt (hnew ▸ Nat.lt_irrefl _)

/-- A relation that every append has, the appends of a repair have together. -/
lemma backfill_induction {motive : ProfileMemoryMutationJournalState → Prop}
    (happend : ∀ state input, motive state →
      motive (appendProfileMemoryMutationJournalEntry platform state input))
    {state : ProfileMemoryMutationJournalState} (h : motive state) (recordedAt : String)
    (ids : ReplayBackfillIds) :
    motive (appendProfileMemoryGraphReplayBackfillEntries platform state recordedAt ids) := by
  have hlane : ∀ state lane ids input, motive state →
      motive (appendReplayBackfillEntry platform state recordedAt lane ids input) := by
    intro state lane ids input hstate
    unfold appendReplayBackfillEntry
    split_ifs
    · exact hstate
    · exact happend _ _ hstate
  exact hlane _ _ _ _ (hlane _ _ _ _ (hlane _ _ _ _ h))

/-! ### Pruning -/

lemma pruneJournalEntry_continues {valid : SurvivingRecordIds}
    {entry pruned : ProfileMemoryMutationJournalEntry}
    (h : pruneJournalEntry platform valid entry = some pruned) : Continues entry pruned := by
  unfold pruneJournalEntry at h
  dsimp only at h
  split_ifs at h with hempty hsame
  · cases h
    exact Continues.refl entry
  · cases h
    exact ⟨rfl, rfl, rfl, rfl, rfl, trim_mem_of_mem_pruned, trim_mem_of_mem_pruned,
      trim_mem_of_mem_pruned⟩

lemma prunedEntries_stamped {state : ProfileMemoryMutationJournalState} (h : Stamped state)
    (valid : SurvivingRecordIds) :
    Stamped ⟨state.nextWatermark, state.entries.filterMap (pruneJournalEntry platform valid)⟩ := by
  have hsource : ∀ entry ∈ state.entries.filterMap (pruneJournalEntry platform valid),
      ∃ original ∈ state.entries, entry.watermark = original.watermark := by
    intro entry hentry
    obtain ⟨original, horiginal, hpruned⟩ := List.mem_filterMap.mp hentry
    exact ⟨original, horiginal, (pruneJournalEntry_continues platform hpruned).watermark⟩
  refine ⟨?_, ?_, ?_, h.next_positive⟩
  · refine List.Pairwise.filterMap _ ?_ h.increasing
    intro left right hlt left' hleft right' hright
    rw [(pruneJournalEntry_continues platform hleft).watermark,
      (pruneJournalEntry_continues platform hright).watermark]
    exact hlt
  · intro entry hentry
    obtain ⟨original, horiginal, heq⟩ := hsource entry hentry
    exact heq ▸ h.positive original horiginal
  · intro entry hentry
    obtain ⟨original, horiginal, heq⟩ := hsource entry hentry
    exact heq ▸ h.below original horiginal

/-- Pruning keeps the counter and leaves entries that were there. -/
lemma prune_spec {state : ProfileMemoryMutationJournalState} (h : Stamped state)
    (valid : SurvivingRecordIds) :
    let pruned := pruneProfileMemoryMutationJournalReferences platform state valid
    Stamped pruned ∧ pruned.nextWatermark = state.nextWatermark ∧
      ∀ entry ∈ pruned.entries, ∃ original ∈ state.entries, Continues original entry := by
  unfold pruneProfileMemoryMutationJournalReferences
  dsimp only
  split_ifs with hsame
  · exact ⟨h, rfl, fun entry hentry => ⟨entry, hentry, Continues.refl entry⟩⟩
  · obtain ⟨hcounter, hcontinue, -⟩ :=
      normalize_toJson platform (prunedEntries_stamped platform h valid)
        (((state.entries.filterMap (pruneJournalEntry platform valid) ++
          state.entries).head?.map (·.recordedAt)).getD EMPTY_MUTATION_JOURNAL_FALLBACK_RECORDED_AT)
    refine ⟨stamped_normalize platform _ _, hcounter, fun entry hentry => ?_⟩
    obtain ⟨middle, hmiddle, hread⟩ := hcontinue entry hentry
    obtain ⟨original, horiginal, hpruned⟩ := List.mem_filterMap.mp hmiddle
    exact ⟨original, horiginal, (pruneJournalEntry_continues platform hpruned).trans hread⟩

lemma prune_inWindow {snapshot : ℕ} {state : ProfileMemoryMutationJournalState}
    (h : InWindow snapshot state) (valid : SurvivingRecordIds) :
    InWindow snapshot (pruneProfileMemoryMutationJournalReferences platform state valid) := by
  obtain ⟨hstamped, hcounter, hcontinue⟩ := prune_spec platform h.toStamped valid
  refine ⟨hstamped, fun entry hentry => ?_, hcounter ▸ h.snapshot_below⟩
  obtain ⟨original, horiginal, hsame⟩ := hcontinue entry hentry
  exact hsame.watermark ▸ h.above original horiginal

lemma prune_extends {state : ProfileMemoryMutationJournalState} (h : Stamped state)
    (valid : SurvivingRecordIds) :
    Extends state (pruneProfileMemoryMutationJournalReferences platform state valid) :=
  Extends.of_continues (prune_spec platform h valid).2.1 (prune_spec platform h valid).2.2

/-! ### Compaction -/

lemma sort_entries {state : ProfileMemoryMutationJournalState} (h : Stamped state) :
    byWatermark.sort state.entries = state.entries :=
  byWatermark.sort_of_sorted (h.increasing.imp fun hlt => decide_eq_true (Nat.le_of_lt hlt))

/-- A snapshot below the window is not moved down. -/
lemma min_maxSnapshotWatermark {snapshot : ℕ} {state : ProfileMemoryMutationJournalState}
    (h : InWindow snapshot state) :
    min snapshot (maxSnapshotWatermark state.nextWatermark state.entries.head?) = snapshot := by
  refine min_eq_left ?_
  cases hhead : state.entries.head? with
  | none => exact Nat.le_sub_one_of_lt h.snapshot_below
  | some first => exact Nat.le_sub_one_of_lt (h.above first (List.mem_of_head? hhead))

/-- Compaction drops entries from the front, and the snapshot moves up to the last of them. -/
lemma compact_spec {lane : JournalLane} (h : lane.InOrder) (recordedAt : String) :
    let compacted := compactJournal lane recordedAt
    compacted.InOrder ∧
      compacted.journal.nextWatermark = lane.journal.nextWatermark ∧
      ∀ entry ∈ compacted.journal.entries, entry ∈ lane.journal.entries := by
  unfold compactJournal compactProfileMemoryMutationJournalState JournalLane.InOrder
  dsimp only
  rw [sort_entries h.toStamped, min_maxSnapshotWatermark h]
  split_ifs with hfits
  · exact ⟨h, rfl, fun entry hentry => hentry⟩
  · let overflow := lane.journal.entries.length - lane.compaction.maxJournalEntries
    have hkept : ∀ entry ∈ lane.journal.entries.drop overflow, entry ∈ lane.journal.entries :=
      fun entry hentry => List.mem_of_mem_drop hentry
    have hsplit : (lane.journal.entries.take overflow ++
        lane.journal.entries.drop overflow).Pairwise
          fun left right => left.watermark < right.watermark := by
      rw [List.take_append_drop]
      exact h.increasing
    obtain ⟨-, hincreasing, hacross⟩ := List.pairwise_append.mp hsplit
    dsimp only
    obtain ⟨removed, hremoved, hstamp⟩ : ∃ removed ∈ lane.journal.entries.take overflow,
        ((lane.journal.entries.take overflow).getLast?.map (·.watermark)).getD
          lane.compaction.snapshotWatermark = removed.watermark := by
      cases hlast : (lane.journal.entries.take overflow).getLast? with
      | none =>
          have hlength : (lane.journal.entries.take overflow).length = overflow :=
            List.length_take_of_le (Nat.sub_le _ _)
          rw [List.getLast?_eq_none_iff.mp hlast] at hlength
          exact absurd hlength.symm hfits
      | some removed => exact ⟨removed, List.mem_of_getLast? hlast, rfl⟩
    rw [hstamp]
    have hold : removed ∈ lane.journal.entries := List.mem_of_mem_take hremoved
    refine ⟨⟨⟨hincreasing, fun entry hentry => h.positive entry (hkept entry hentry),
      fun entry hentry => h.below entry (hkept entry hentry), h.next_positive⟩,
        fun entry hentry => ?_, ?_⟩, rfl, hkept⟩
    · exact max_lt (h.above entry (hkept entry hentry)) (hacross removed hremoved entry hentry)
    · exact max_lt h.snapshot_below (h.below removed hold)

lemma compact_extends {lane : JournalLane} (h : lane.InOrder) (recordedAt : String) :
    Extends lane.journal (compactJournal lane recordedAt).journal :=
  Extends.of_continues (compact_spec h recordedAt).2.1 fun entry hentry =>
    ⟨entry, (compact_spec h recordedAt).2.2 entry hentry, Continues.refl entry⟩

@[simp] lemma stampGraphCompaction_journal (graphCompacted : Bool) (recordedAt : String)
    (lane : JournalLane) :
    (stampGraphCompaction graphCompacted recordedAt lane).journal = lane.journal := by
  unfold stampGraphCompaction
  split_ifs <;> rfl

@[simp] lemma stampGraphCompaction_snapshot (graphCompacted : Bool) (recordedAt : String)
    (lane : JournalLane) :
    (stampGraphCompaction graphCompacted recordedAt lane).compaction.snapshotWatermark =
      lane.compaction.snapshotWatermark := by
  unfold stampGraphCompaction
  split_ifs <;> rfl

@[simp] lemma stampGraphCompaction_inOrder {graphCompacted : Bool} {recordedAt : String}
    {lane : JournalLane} :
    (stampGraphCompaction graphCompacted recordedAt lane).InOrder ↔ lane.InOrder := by
  simp [JournalLane.InOrder]

/-! ### Loading -/

lemma foldl_lowest {lower : Option ℕ → ProfileMemoryMutationJournalEntry → Option ℕ}
    (hlower : ∀ least entry, lower (some least) entry = some (min least entry.watermark))
    (rest : List ProfileMemoryMutationJournalEntry) (least : ℕ) :
    rest.foldl lower (some least) = some ((rest.map (·.watermark)).foldl min least) := by
  induction rest generalizing least with
  | nil => rfl
  | cons entry rest ih => simp only [List.foldl_cons, List.map_cons, hlower, ih]

lemma lowestWatermark_eq_min? (entries : List ProfileMemoryMutationJournalEntry) :
    lowestWatermark entries = (entries.map (·.watermark)).min? := by
  cases entries with
  | nil => rfl
  | cons entry rest =>
      refine foldl_lowest (fun least entry => ?_) rest entry.watermark
      simp only [Option.some.injEq]
      split_ifs <;> omega

/-- After the clamps the journal is in order, whatever was stored. -/
lemma clampedLane_inOrder (rawJournal rawCompaction : Option Json) (updatedAt : String) :
    (clampedLane platform rawJournal rawCompaction updatedAt).InOrder := by
  have hstamped := stamped_normalize platform rawJournal updatedAt
  unfold JournalLane.InOrder clampedLane clampProfileMemoryGraphMutationJournalNextWatermark
    clampProfileMemoryGraphCompactionSnapshotWatermark
  generalize normalizeProfileMemoryMutationJournalState platform rawJournal updatedAt = state
    at hstamped ⊢
  dsimp only
  refine ⟨⟨hstamped.increasing, hstamped.positive, ?_, Nat.succ_pos _⟩, ?_, ?_⟩
  · intro entry hentry
    exact Nat.lt_succ_of_le ((le_highestWatermark hentry).trans (le_max_left _ _))
  · intro entry hentry
    have hpositive := hstamped.positive entry hentry
    obtain ⟨least, hleast⟩ : ∃ least, lowestWatermark state.entries = some least := by
      rw [lowestWatermark_eq_min?]
      exact Option.isSome_iff_exists.mp
        (List.isSome_min?_of_mem (List.mem_map_of_mem (f := (·.watermark)) hentry))
    have hle : least ≤ entry.watermark := by
      rw [lowestWatermark_eq_min?, List.min?_eq_some_iff] at hleast
      exact hleast.2 _ (List.mem_map_of_mem hentry)
    rw [hleast, Option.getD_some]
    omega
  · exact Nat.lt_succ_of_le (le_max_right _ _)

/-- The counter that a load starts from. -/
lemma clampedLane_counter {lane : JournalLane} (h : lane.InOrder) (updatedAt : String) :
    (clampedLane platform (some lane.journal.toJson) (some lane.compaction.toJson)
      updatedAt).journal.nextWatermark =
        max (highestWatermark lane.journal.entries) lane.compaction.snapshotWatermark + 1 := by
  obtain ⟨hcounter, hcontinue, hhighest⟩ := normalize_toJson platform h.toStamped updatedAt
  have hsnapshot : (normalizeProfileMemoryGraphCompactionState platform
      (some lane.compaction.toJson)).snapshotWatermark = lane.compaction.snapshotWatermark := by
    have hread : (normalizeProfileMemoryGraphCompactionState platform
        (some lane.compaction.toJson)).snapshotWatermark =
          (naturalOf (some (countJson lane.compaction.snapshotWatermark))).getD 0 := rfl
    rw [hread, naturalOf_countJson, Option.getD_some]
  unfold clampedLane clampProfileMemoryGraphMutationJournalNextWatermark
    clampProfileMemoryGraphCompactionSnapshotWatermark
  generalize normalizeProfileMemoryMutationJournalState platform (some lane.journal.toJson)
    updatedAt = read at hcounter hcontinue hhighest ⊢
  dsimp only
  have hwindow : lane.compaction.snapshotWatermark ≤
      (lowestWatermark read.entries).getD read.nextWatermark - 1 := by
    cases hlowest : lowestWatermark read.entries with
    | none =>
        rw [Option.getD_none, hcounter]
        exact Nat.le_sub_one_of_lt h.snapshot_below
    | some least =>
        rw [lowestWatermark_eq_min?, List.min?_eq_some_iff] at hlowest
        obtain ⟨entry, hentry, rfl⟩ := List.mem_map.mp hlowest.1
        obtain ⟨original, horiginal, hsame⟩ := hcontinue entry hentry
        rw [Option.getD_some, hsame.watermark]
        exact Nat.le_sub_one_of_lt (h.above original horiginal)
  rw [hsnapshot, min_eq_left hwindow, hhighest]

/-- What a load leaves is in order, whatever was stored. -/
theorem normalizeGraphJournal_inOrder (rawJournal rawCompaction : Option Json)
    (load : GraphLoad) :
    (normalizeGraphJournal platform rawJournal rawCompaction load).InOrder := by
  let clamped := clampedLane platform rawJournal rawCompaction load.updatedAt
  have hrepaired := backfill_induction platform
    (motive := InWindow clamped.compaction.snapshotWatermark)
    (fun state input hstate => append_inWindow platform hstate input)
    (clampedLane_inOrder platform rawJournal rawCompaction load.updatedAt) load.updatedAt
    load.backfill
  have hpruned := (prune_inWindow platform hrepaired load.surviving).inOrder
  exact stampGraphCompaction_inOrder.mpr (compact_spec hpruned load.updatedAt).1

/-! ### Steps -/

/-- Nothing above the window was pruned since the last append. -/
def CounterKept (lane : JournalLane) : JournalEvent → Prop
  | .saveAndLoad _ => lane.journal.nextWatermark =
      max (highestWatermark lane.journal.entries) lane.compaction.snapshotWatermark + 1
  | _ => True

instance (lane : JournalLane) : ∀ event, Decidable (CounterKept lane event)
  | .saveAndLoad _ => inferInstanceAs (Decidable (_ = _))
  | .batch _ => inferInstanceAs (Decidable True)
  | .rekey _ => inferInstanceAs (Decidable True)
  | .compact _ => inferInstanceAs (Decidable True)

variable {platform}

lemma batch_spec {lane : JournalLane} (h : lane.InOrder) (input : GraphBatch) :
    let next := applyProfileMemoryGraphMutations platform lane input
    next.InOrder ∧ Extends lane.journal next.journal := by
  have happended := append_inWindow platform h input.entry
  have hpruned := (prune_inWindow platform happended input.surviving).inOrder
  refine ⟨stampGraphCompaction_inOrder.mpr (compact_spec hpruned input.entry.recordedAt).1, ?_⟩
  unfold applyProfileMemoryGraphMutations
  rw [stampGraphCompaction_journal]
  exact ((append_extends platform lane.journal input.entry).trans
    (prune_extends platform happended.toStamped input.surviving)).trans
      (compact_extends hpruned input.entry.recordedAt)

lemma rekey_spec {lane : JournalLane} (h : lane.InOrder) (entry : JournalEntryInput) :
    let next := applyProfileMemoryGraphStableRefRekey platform lane entry
    next.InOrder ∧ Extends lane.journal next.journal := by
  have happended := (append_inWindow platform h entry).inOrder
  exact ⟨(compact_spec happended entry.recordedAt).1,
    (append_extends platform lane.journal entry).trans
      (compact_extends happended entry.recordedAt)⟩

/-- A load whose clamp leaves the counter where it is extends the journal. -/
lemma load_extends {lane : JournalLane} (h : lane.InOrder) (load : GraphLoad)
    (hkept : CounterKept lane (.saveAndLoad load)) :
    Extends lane.journal (normalizeGraphJournal platform (some lane.journal.toJson)
      (some lane.compaction.toJson) load).journal := by
  let clamped := clampedLane platform (some lane.journal.toJson) (some lane.compaction.toJson)
    load.updatedAt
  have hclamped : clamped.InOrder := clampedLane_inOrder platform _ _ load.updatedAt
  have hread : Extends lane.journal clamped.journal :=
    Extends.of_continues ((clampedLane_counter platform h load.updatedAt).trans hkept.symm)
      (normalize_toJson platform h.toStamped load.updatedAt).2.1
  have hrepaired := backfill_induction platform
    (motive := fun state => InWindow clamped.compaction.snapshotWatermark state ∧
      Extends lane.journal state)
    (fun state input hstate => ⟨append_inWindow platform hstate.1 input,
      hstate.2.trans (append_extends platform state input)⟩) ⟨hclamped, hread⟩ load.updatedAt
    load.backfill
  have hpruned := (prune_inWindow platform hrepaired.1 load.surviving).inOrder
  unfold normalizeGraphJournal
  rw [stampGraphCompaction_journal]
  exact (hrepaired.2.trans (prune_extends platform hrepaired.1.toStamped load.surviving)).trans
    (compact_extends hpruned load.updatedAt)

lemma journalStep_inOrder {lane next : JournalLane} {event : JournalEvent} (h : lane.InOrder)
    (hstep : journalStep platform lane event = some next) : next.InOrder := by
  cases event with
  | batch input =>
      cases hstep
      exact (batch_spec h input).1
  | rekey entry =>
      cases hstep
      exact (rekey_spec h entry).1
  | compact recordedAt =>
      cases hstep
      exact (compact_spec h recordedAt).1
  | saveAndLoad load =>
      cases hstep
      exact normalizeGraphJournal_inOrder platform _ _ load

lemma journalStep_extends {lane next : JournalLane} {event : JournalEvent} (h : lane.InOrder)
    (hkept : CounterKept lane event) (hstep : journalStep platform lane event = some next) :
    Extends lane.journal next.journal := by
  cases event with
  | batch input =>
      cases hstep
      exact (batch_spec h input).2
  | rekey entry =>
      cases hstep
      exact (rekey_spec h entry).2
  | compact recordedAt =>
      cases hstep
      exact compact_extends h recordedAt
  | saveAndLoad load =>
      cases hstep
      exact load_extends h load hkept

/-! ## Runs -/

lemma run_inOrder {start finish : JournalLane} {events : List JournalEvent} (h : start.InOrder)
    (hrun : run (journalStep platform) start events = some finish) : finish.InOrder :=
  invariant_of_run (fun _ _ _ hinv hstep => journalStep_inOrder hinv hstep) h hrun

lemma run_extends {start finish : JournalLane} {events : List JournalEvent} (h : start.InOrder)
    (hkept : Along (journalStep platform) CounterKept start events)
    (hrun : run (journalStep platform) start events = some finish) :
    Extends start.journal finish.journal := by
  have hstep : ∀ lane event next, (lane.InOrder ∧ Extends start.journal lane.journal) →
      CounterKept lane event → journalStep platform lane event = some next →
        next.InOrder ∧ Extends start.journal next.journal := by
    intro lane event next hlane hevent hnext
    exact ⟨journalStep_inOrder hlane.1 hnext,
      hlane.2.trans (journalStep_extends hlane.1 hevent hnext)⟩
  exact (invariant_of_along hstep ⟨h, Extends.refl start.journal⟩ hkept hrun).2

/-- Two entries of one watermark, one of them in a journal that the other's journal extends. -/
lemma continues_of_same_watermark {before after : ProfileMemoryMutationJournalState}
    (h : Stamped before) (hextends : Extends before after)
    {entry later : ProfileMemoryMutationJournalEntry} (hentry : entry ∈ before.entries)
    (hlater : later ∈ after.entries) (hsame : later.watermark = entry.watermark) :
    Continues entry later := by
  obtain ⟨original, horiginal, hcontinues⟩ :=
    hextends.old later hlater (hsame ▸ h.below entry hentry)
  have heq : original = entry := List.inj_on_of_nodup_map h.watermarks_nodup horiginal hentry
    (hcontinues.watermark.symm.trans hsame)
  exact heq ▸ hcontinues

/-- From any payload on, every state of a run is in order; only a load lowers the counter, to one
above what is retained; and where no load of a later part of the run does, no watermark below the
counter is given out again. -/
theorem journal_watermarks_of_run (rawJournal rawCompaction : Option Json) (load : GraphLoad)
    {before after : List JournalEvent} {middle finish : JournalLane}
    (hbefore : run (journalStep platform)
      (normalizeGraphJournal platform rawJournal rawCompaction load) before = some middle)
    (hafter : run (journalStep platform) middle after = some finish) :
    middle.InOrder ∧
      (∀ event next, (∀ load, event ≠ .saveAndLoad load) →
        journalStep platform middle event = some next →
          middle.journal.nextWatermark ≤ next.journal.nextWatermark) ∧
      (∀ updatedAt, (clampedLane platform (some middle.journal.toJson)
        (some middle.compaction.toJson) updatedAt).journal.nextWatermark =
          max (highestWatermark middle.journal.entries) middle.compaction.snapshotWatermark + 1) ∧
      (Along (journalStep platform) CounterKept middle after →
        middle.journal.nextWatermark ≤ finish.journal.nextWatermark ∧
        (∀ entry ∈ finish.journal.entries, entry.watermark < middle.journal.nextWatermark →
          ∃ original ∈ middle.journal.entries, Continues original entry) ∧
        ∀ entry ∈ middle.journal.entries, ∀ later ∈ finish.journal.entries,
          later.watermark = entry.watermark → Continues entry later) := by
  have hmiddle : middle.InOrder :=
    run_inOrder (normalizeGraphJournal_inOrder platform rawJournal rawCompaction load) hbefore
  refine ⟨hmiddle, ?_, clampedLane_counter platform hmiddle, ?_⟩
  · intro event next hnoLoad hstep
    have hkept : CounterKept middle event := by
      cases event with
      | saveAndLoad load => exact absurd rfl (hnoLoad load)
      | _ => trivial
    exact (journalStep_extends hmiddle hkept hstep).counter
  · intro hkept
    have hextends := run_extends hmiddle hkept hafter
    exact ⟨hextends.counter, hextends.old, fun entry hentry later hlater =>
      continues_of_same_watermark hmiddle.toStamped hextends hentry hlater⟩

end Steps

/-! ## An entry whose record is gone -/

/-- The canonical text of what an entry of these runs records. -/
def journalPayloadText (observationId sourceFingerprint : String) : String :=
  "\x7b\"claimIds\":[],\"eventIds\":[],\"mutationEnvelopeHash\":null,\"observationIds\":[\"" ++
    observationId ++ "\"],\"recordedAt\":\"2026-02-01T00:00:00.000Z\"," ++
    "\"redactionState\":\"not_requested\",\"sourceFingerprint\":" ++ sourceFingerprint ++
    ",\"sourceTaskId\":null\x7d"

def journalDigests : List (String × String) :=
  [(journalPayloadText "observation_new" "\"turn_1\"",
      "91580ca7605695b54b210599218ae90e740b74556b0652854f6a9de40dd15a6c"),
    (journalPayloadText "observation_gone" "\"turn_0\"",
      "6dde0c3764a5f6b8efa6d8d4534816bc8c3db50fd7871abde488df42a8097d26"),
    (journalPayloadText "observation_new" "\"turn_0\"",
      "12b1947c2d6f610e2ccf81c0a6739a83c3445b397cf24dc29c5611f2a96b4746"),
    (journalPayloadText "observation_new" "null",
      "a600c031efd00a262c5d251ad52f4025994f76c2ff37eec18cce2b86f8450a8f")]

def februaryPlatform : JournalPlatform where
  toHost := Host.ofTables [("2026-02-01T00:00:00.000Z", 1769904000000)] []
  sha := Sha256.ofTable journalDigests
    ((((validTable_nil.cons (by decide) (by decide)).cons (by decide) (by decide)).cons
      (by decide) (by decide)).cons (by decide) (by decide))
  hostSort := .insertion
  toISOString _ := "2026-02-01T00:00:00.000Z"

def journalInput (observationIds : List String) : JournalEntryInput where
  recordedAt := "2026-02-01T00:00:00.000Z"
  sourceTaskId := none
  sourceFingerprint := some "turn_1"
  mutationEnvelopeHash := none
  observationIds := observationIds
  claimIds := []
  eventIds := []
  redactionState := .notRequested

/-- A load of a graph with these observations, all of them covered by the journal. -/
def plainLoad (observationIds : List String) : GraphLoad where
  updatedAt := "2026-02-01T00:00:00.000Z"
  backfill := ⟨[], [], []⟩
  surviving := ⟨observationIds, [], []⟩
  graphCompacted := false

def observationBatch (observationId : String) : GraphBatch where
  entry := journalInput [observationId]
  surviving := ⟨[observationId], [], []⟩
  graphCompacted := false

/-- A saved journal whose one entry is about an observation that the graph no longer has. -/
def danglingJournal : Json :=
  .obj [("schemaVersion", .str "v1"), ("nextWatermark", countJson 2), ("entries", .arr
    [.obj [("journalEntryId", .str "journal_1"), ("watermark", countJson 1),
      ("recordedAt", .str "2026-02-01T00:00:00.000Z"), ("sourceTaskId", .null),
      ("sourceFingerprint", .str "turn_0"), ("mutationEnvelopeHash", .null),
      ("observationIds", .arr [.str "observation_gone"]), ("claimIds", .arr []),
      ("eventIds", .arr []), ("redactionState", .str "not_requested")]])]

def danglingStart : JournalLane :=
  normalizeGraphJournal februaryPlatform (some danglingJournal) none (plainLoad [])

/-- The first load prunes the entry and keeps the counter; saved and loaded again, the counter goes
down to 1; and the next batch is stamped with the watermark of the entry that went. -/
theorem pruned_watermark_given_again :
    danglingStart.journal.nextWatermark = 2 ∧
      ((journalStep februaryPlatform danglingStart (.saveAndLoad (plainLoad []))).map
        (·.journal.nextWatermark)) = some 1 ∧
      ((run (journalStep februaryPlatform) danglingStart
        [.saveAndLoad (plainLoad []), .batch (observationBatch "observation_new")]).map
          fun lane => lane.journal.entries.map (·.watermark)) = some [1] := by
  decide +kernel

def coveredJournal : Json :=
  .obj [("nextWatermark", countJson 7), ("entries", .arr
    [.obj [("watermark", countJson 5), ("observationIds", .arr [.str "observation_new"])],
      .obj [("observationIds", .arr [.str "observation_new"]),
        ("sourceFingerprint", .str "turn_0")]])]

def coveredStart : JournalLane :=
  normalizeGraphJournal februaryPlatform (some coveredJournal) none (plainLoad ["observation_new"])

def coveredMiddle : JournalLane :=
  applyProfileMemoryGraphMutations februaryPlatform coveredStart
    (observationBatch "observation_new")

def coveredFinish : JournalLane :=
  compactJournal (normalizeGraphJournal februaryPlatform (some coveredMiddle.journal.toJson)
    (some coveredMiddle.compaction.toJson) (plainLoad ["observation_new"]))
    "2026-02-01T00:00:00.000Z"

/-- A batch on a repaired journal, then a load and a compaction, none of which lowers the
counter. -/
theorem journal_watermarks_covered :
    coveredMiddle.InOrder ∧
      coveredMiddle.journal.nextWatermark ≤ coveredFinish.journal.nextWatermark := by
  have h := @journal_watermarks_of_run februaryPlatform (some coveredJournal) none
    (plainLoad ["observation_new"]) [.batch (observationBatch "observation_new")]
    [.saveAndLoad (plainLoad ["observation_new"]), .compact "2026-02-01T00:00:00.000Z"]
    coveredMiddle coveredFinish
    (by simp only [run_cons, run_nil, journalStep, Option.bind_some, coveredMiddle, coveredStart])
    (by simp only [run_cons, run_nil, journalStep, Option.bind_some, coveredFinish])
  exact ⟨h.1, (h.2.2.2 (by decide +kernel)).1⟩

end AgentBigBrain.Core
