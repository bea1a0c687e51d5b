import AgentBigBrain.Core.RecallLifecycle

/-!
# How a retrieval shares out its budget

The first records of the ranking take the slots of `maxRecords`, whether or not they then give an
excerpt. A record that the sensitivity policy rules out keeps its slot, and nothing else wastes one.
-/
namespace AgentBigBrain.Core

open AgentBigBrain.Js

/-! ## Sets of values that grow -/

lemma uniqueValues_concat {α : Type*} [DecidableEq α] (xs : List α) (x : α) :
    uniqueValues (xs ++ [x]) =
      if x ∈ xs then uniqueValues xs else uniqueValues xs ++ [x] := by
  have hkeys := (valueSet α).map_key_upsert x (uniqueValues xs)
  have hstep : uniqueValues (xs ++ [x]) = (valueSet α).upsert x (uniqueValues xs) := by
    simp [uniqueValues, Lib.KeyedMerge.collect]
  have hmap : ∀ ys : List α, ys.map (valueSet α).key = ys := fun ys => List.map_id ys
  rw [hmap, hmap] at hkeys
  rw [hstep, hkeys]
  exact if_congr mem_uniqueValues rfl rfl

/-! ## The slots of the records -/

variable (query : SourceRecallRetrievalQuery) (budget : NormalizedOutputBudget)

/-- The sensitivity policy rules the candidate out. -/
def RuledOut (candidate : CandidateChunk) : Prop :=
  candidate.record.sensitive = true ∧ budget.sensitivityRedactionPolicy = .excludeSensitive

instance (candidate : CandidateChunk) : Decidable (RuledOut budget candidate) :=
  inferInstanceAs (Decidable (_ ∧ _))

/-- The records of the candidates, each where it first stands. -/
def rankedRecordIds (ranked : List CandidateChunk) : List String :=
  uniqueValues (ranked.map (·.record.sourceRecordId))

/-- The records that take the slots. -/
def openedRecords (ranked : List CandidateChunk) : List String :=
  (rankedRecordIds ranked).take budget.maxRecords

/-- The candidates of these records that the policy lets through. -/
def servedCandidates (ranked : List CandidateChunk) : List CandidateChunk :=
  ranked.filter fun candidate =>
    candidate.record.sourceRecordId ∈ openedRecords budget ranked ∧ ¬RuledOut budget candidate

/-- The characters of their excerpts. -/
def servedChars (ranked : List CandidateChunk) : ℕ :=
  ((servedCandidates budget ranked).map fun candidate =>
    (buildBudgetedExcerpt candidate query.exactQuote budget).excerpt.length).sum

variable {query budget}

lemma mem_rankedRecordIds {ranked : List CandidateChunk} {id : String} :
    id ∈ rankedRecordIds ranked ↔
      ∃ candidate ∈ ranked, candidate.record.sourceRecordId = id := by
  simp [rankedRecordIds]

/-- A slot is opened as the loop does it: for a record without one, while there are any. -/
lemma openedRecords_concat (given : List CandidateChunk) (candidate : CandidateChunk) :
    openedRecords budget (given ++ [candidate]) =
      if candidate.record.sourceRecordId ∈ openedRecords budget given then
        openedRecords budget given
      else if budget.maxRecords ≤ (openedRecords budget given).length then
        openedRecords budget given
      else openedRecords budget given ++ [candidate.record.sourceRecordId] := by
  unfold openedRecords
  generalize hslots : rankedRecordIds given = seen
  have hnext : rankedRecordIds (given ++ [candidate]) =
      if candidate.record.sourceRecordId ∈ seen then seen
      else seen ++ [candidate.record.sourceRecordId] := by
    rw [← hslots, rankedRecordIds, List.map_append, List.map_singleton, uniqueValues_concat]
    exact if_congr mem_uniqueValues.symm rfl rfl
  rw [hnext, List.length_take]
  by_cases hroom : budget.maxRecords ≤ seen.length
  · have hfull : budget.maxRecords ≤ min budget.maxRecords seen.length := by omega
    by_cases hseen : candidate.record.sourceRecordId ∈ seen
    · simp only [hseen, if_true, if_pos hfull, ite_self]
    · have hcut : (seen ++ [candidate.record.sourceRecordId]).take budget.maxRecords =
          seen.take budget.maxRecords := List.take_append_of_le_length hroom
      simp only [hseen, if_false, hcut, if_pos hfull, ite_self]
  · have hall : seen.take budget.maxRecords = seen := List.take_of_length_le (by omega)
    have hopen : ¬budget.maxRecords ≤ min budget.maxRecords seen.length := by omega
    rw [hall, if_neg hopen]
    by_cases hseen : candidate.record.sourceRecordId ∈ seen
    · simp only [hseen, if_true, hall]
    · simp only [hseen, if_false]
      refine List.take_of_length_le ?_
      simp only [List.length_append, List.length_singleton]
      omega

/-- A new candidate opens no slot for an earlier one. -/
lemma mem_openedRecords_concat {given : List CandidateChunk} {earlier : CandidateChunk}
    (hearlier : earlier ∈ given) (candidate : CandidateChunk) :
    earlier.record.sourceRecordId ∈ openedRecords budget (given ++ [candidate]) ↔
      earlier.record.sourceRecordId ∈ openedRecords budget given := by
  rw [openedRecords_concat]
  split_ifs with hopened hfull
  · rfl
  · rfl
  · have hall : openedRecords budget given = rankedRecordIds given := by
      refine List.take_of_length_le ?_
      simp only [openedRecords, List.length_take] at hfull
      omega
    have hmem : earlier.record.sourceRecordId ∈ openedRecords budget given := by
      rw [hall]
      exact mem_rankedRecordIds.mpr ⟨earlier, hearlier, rfl⟩
    exact iff_of_true (List.mem_append_left _ hmem) hmem

lemma servedCandidates_concat (given : List CandidateChunk) (candidate : CandidateChunk) :
    servedCandidates budget (given ++ [candidate]) =
      servedCandidates budget given ++
        if candidate.record.sourceRecordId ∈ openedRecords budget (given ++ [candidate]) ∧
          ¬RuledOut budget candidate then [candidate] else [] := by
  unfold servedCandidates
  rw [List.filter_append, List.filter_singleton]
  congr 1
  · refine List.filter_congr fun earlier hearlier => ?_
    simp only [mem_openedRecords_concat hearlier]
  · by_cases hserved : candidate.record.sourceRecordId ∈
        openedRecords budget (given ++ [candidate]) ∧ ¬RuledOut budget candidate
    · simp only [hserved, decide_true, cond_true, if_true, not_false_eq_true, and_self]
    · simp only [decide_eq_false hserved, cond_false, if_neg hserved]

/-! ## The loop -/

/-- What the loop has taken of the candidates it was given. -/
structure SharedOut (query : SourceRecallRetrievalQuery) (budget : NormalizedOutputBudget)
    (given : List CandidateChunk) (progress : RecallProgress) : Prop where
  opened : progress.includedRecordIds = openedRecords budget given
  count : progress.excerpts.length ≤ (servedCandidates budget given).length
  chars : progress.totalCharsReturned ≤ servedChars query budget given
  whole : progress.excerpts.length < budget.maxChunks →
    progress.totalCharsReturned < budget.maxTotalExcerptChars →
    progress.excerpts = (servedCandidates budget given).map fun candidate =>
      buildBudgetedExcerpt candidate query.exactQuote budget

lemma servedChars_concat (given : List CandidateChunk) (candidate : CandidateChunk) :
    servedChars query budget (given ++ [candidate]) =
      servedChars query budget given +
        if candidate.record.sourceRecordId ∈ openedRecords budget (given ++ [candidate]) ∧
          ¬RuledOut budget candidate then
          (buildBudgetedExcerpt candidate query.exactQuote budget).excerpt.length else 0 := by
  unfold servedChars
  rw [servedCandidates_concat, List.map_append, List.sum_append]
  split_ifs <;> simp

section Loop

variable {given : List CandidateChunk} {progress : RecallProgress} {candidate : CandidateChunk}

lemma sharedOut_start (blocked : ℕ) :
    SharedOut query budget []
      { includedRecordIds := [], excerpts := [], totalCharsReturned := 0,
        blockedRedactedCount := blocked } :=
  ⟨by simp [openedRecords, rankedRecordIds, uniqueValues], Nat.zero_le _, Nat.zero_le _,
    fun _ _ => rfl⟩

/-- A candidate whose record holds a slot. -/
lemma SharedOut.takeExcerpt (h : SharedOut query budget given progress)
    {opened : List String} (hopened : opened = openedRecords budget (given ++ [candidate]))
    (hmem : candidate.record.sourceRecordId ∈ opened) :
    SharedOut query budget (given ++ [candidate])
      (takeExcerpt query budget { progress with includedRecordIds := opened } candidate) := by
  have hid : candidate.record.sourceRecordId ∈ openedRecords budget (given ++ [candidate]) :=
    hopened ▸ hmem
  have hcount : progress.excerpts.length ≤
      (servedCandidates budget (given ++ [candidate])).length := by
    rw [servedCandidates_concat, List.length_append]
    exact h.count.trans (Nat.le_add_right _ _)
  have hchars : progress.totalCharsReturned ≤ servedChars query budget (given ++ [candidate]) := by
    rw [servedChars_concat]
    exact h.chars.trans (Nat.le_add_right _ _)
  unfold AgentBigBrain.Core.takeExcerpt
  dsimp only
  split_ifs with hchunks hruled hleft
  · exact ⟨hopened, hcount, hchars, fun hroom => absurd hroom (Nat.not_lt.mpr hchunks)⟩
  · refine ⟨hopened, hcount, hchars, fun hroom hchars => ?_⟩
    rw [servedCandidates_concat, if_neg fun hserved => hserved.2 hruled, List.append_nil]
    exact h.whole hroom hchars
  · refine ⟨hopened, hcount, hchars, fun _ htotal => ?_⟩
    have htotal : progress.totalCharsReturned < budget.maxTotalExcerptChars := htotal
    omega
  · have hserved : candidate.record.sourceRecordId ∈
        openedRecords budget (given ++ [candidate]) ∧ ¬RuledOut budget candidate := ⟨hid, hruled⟩
    have hcandidates : servedCandidates budget (given ++ [candidate]) =
        servedCandidates budget given ++ [candidate] := by
      rw [servedCandidates_concat, if_pos hserved]
    generalize hbuilt : buildBudgetedExcerpt candidate query.exactQuote budget = built
    refine ⟨hopened, ?_, ?_, fun hroom htotal => ?_⟩
    · rw [hcandidates, List.length_append, List.length_append]
      exact Nat.add_le_add_right h.count 1
    · rw [servedChars_concat, if_pos hserved, hbuilt]
      exact Nat.add_le_add h.chars (List.length_take_le' _ _)
    · simp only [List.length_append, List.length_singleton] at hroom
      simp only [List.length_take] at htotal
      have huncut : built.excerpt.take
          (budget.maxTotalExcerptChars - progress.totalCharsReturned) = built.excerpt :=
        List.take_of_length_le (by omega)
      rw [hcandidates, List.map_append, List.map_singleton, hbuilt, huncut,
        h.whole (by omega) (by omega)]

lemma SharedOut.takeCandidate (h : SharedOut query budget given progress) :
    SharedOut query budget (given ++ [candidate])
      (takeCandidate query budget progress candidate) := by
  have hconcat := @openedRecords_concat budget given candidate
  rw [← h.opened] at hconcat
  unfold AgentBigBrain.Core.takeCandidate
  split_ifs with hincluded hfull
  · rw [if_pos hincluded] at hconcat
    exact h.takeExcerpt hconcat.symm hincluded
  · rw [if_neg hincluded, if_pos hfull] at hconcat
    have hclosed : ¬(candidate.record.sourceRecordId ∈
        openedRecords budget (given ++ [candidate]) ∧ ¬RuledOut budget candidate) :=
      fun hopen => hincluded (hconcat ▸ hopen.1)
    have hserved : servedCandidates budget (given ++ [candidate]) =
        servedCandidates budget given := by
      rw [servedCandidates_concat, if_neg hclosed, List.append_nil]
    refine ⟨hconcat.symm, ?_, ?_, ?_⟩
    · rw [hserved]
      exact h.count
    · rw [servedChars_concat, if_neg hclosed]
      exact h.chars
    · rw [hserved]
      exact h.whole
  · rw [if_neg hincluded, if_neg hfull] at hconcat
    exact h.takeExcerpt hconcat.symm (by simp)

lemma SharedOut.foldl (ranked : List CandidateChunk) (blocked : ℕ) :
    SharedOut query budget ranked
      (ranked.foldl (AgentBigBrain.Core.takeCandidate query budget)
        { includedRecordIds := [], excerpts := [], totalCharsReturned := 0,
          blockedRedactedCount := blocked }) := by
  induction ranked using List.reverseRecOn with
  | nil => exact sharedOut_start blocked
  | append_singleton given candidate ih =>
      rw [List.foldl_append]
      exact ih.takeCandidate

end Loop

/-! ## Fairness -/

section Fairness

variable (platform : Platform) (hostSort : HostSort) (document : SourceRecallDocument)

/-- The candidates in the order in which the loop takes them. -/
def rankedCandidates (query : SourceRecallRetrievalQuery) (budget : NormalizedOutputBudget) :
    List CandidateChunk :=
  hostSort.sort (compareCandidates platform) (candidateChunks platform document query budget)

variable (query budget)

/-- An excerpt of the candidate, perhaps cut short, is among those returned. -/
def ShownIn (excerpts : List SourceRecallExcerpt) (candidate : CandidateChunk) : Prop :=
  ∃ left, 0 < left ∧
    { buildBudgetedExcerpt candidate query.exactQuote budget with
      excerpt := (buildBudgetedExcerpt candidate query.exactQuote budget).excerpt.take left } ∈
        excerpts

/-- The records that have an excerpt, but for the candidate's own. -/
def otherRecordIds (excerpts : List SourceRecallExcerpt) (candidate : CandidateChunk) :
    List String :=
  (uniqueValues (excerpts.map (·.sourceRecordId))).filter
    (· ≠ candidate.record.sourceRecordId)

/-- The excerpts alone reach a limit of the budget. -/
def UsedUp (excerpts : List SourceRecallExcerpt) (candidate : CandidateChunk) : Prop :=
  budget.maxRecords ≤ (otherRecordIds excerpts candidate).length ∨
    budget.maxChunks ≤ excerpts.length ∨
    budget.maxTotalExcerptChars ≤ (excerpts.map (·.excerpt.length)).sum

/-- A record that is ruled out holds a slot that an allowed candidate lacks, and the allowed
candidates that have one reach no other limit. -/
structure SlotWasted (ranked : List CandidateChunk) : Prop where
  held : ∃ candidate ∈ ranked, RuledOut budget candidate ∧
    candidate.record.sourceRecordId ∈ openedRecords budget ranked
  lacked : ∃ candidate ∈ ranked, ¬RuledOut budget candidate ∧
    candidate.record.sourceRecordId ∉ openedRecords budget ranked
  chunks : (servedCandidates budget ranked).length < budget.maxChunks
  chars : servedChars query budget ranked < budget.maxTotalExcerptChars

variable {platform hostSort document query budget}

/-- Candidates of one record carry it alike. -/
lemma record_eq_of_id {candidate other : CandidateChunk}
    (hcandidate : candidate ∈ candidateChunks platform document query budget)
    (hother : other ∈ candidateChunks platform document query budget)
    (hid : candidate.record.sourceRecordId = other.record.sourceRecordId) :
    candidate.record = other.record := by
  have hleft := (activeMatch_of_candidate hcandidate).record_of
  have hright := (activeMatch_of_candidate hother).record_of
  have hleftId := (recordById_mem hleft).2
  have hrightId := (recordById_mem hright).2
  rw [← hleftId, hid, hrightId, hright] at hleft
  exact (Option.some.inj hleft).symm

lemma sourceRecordId_mem_of_shownIn {excerpts : List SourceRecallExcerpt}
    {candidate : CandidateChunk} (h : ShownIn query budget excerpts candidate) :
    candidate.record.sourceRecordId ∈ excerpts.map (·.sourceRecordId) := by
  obtain ⟨left, -, hmem⟩ := h
  have hid := List.mem_map_of_mem (f := SourceRecallExcerpt.sourceRecordId) hmem
  simpa using hid

lemma shownIn_of_served {ranked : List CandidateChunk} {candidate : CandidateChunk}
    (h : candidate ∈ servedCandidates budget ranked) :
    ShownIn query budget ((servedCandidates budget ranked).map fun served =>
      buildBudgetedExcerpt served query.exactQuote budget) candidate := by
  refine ⟨(buildBudgetedExcerpt candidate query.exactQuote budget).excerpt.length + 1,
    Nat.succ_pos _, ?_⟩
  rw [List.take_of_length_le (Nat.le_succ _)]
  exact List.mem_map_of_mem h

lemma recordIds_of_served (served : List CandidateChunk) :
    (served.map fun candidate => buildBudgetedExcerpt candidate query.exactQuote budget).map
      (·.sourceRecordId) = served.map (·.record.sourceRecordId) := by
  rw [List.map_map]
  refine List.map_congr_left fun candidate _ => ?_
  simp

/-- The slots are those of a set. -/
lemma openedRecords_nodup (ranked : List CandidateChunk) : (openedRecords budget ranked).Nodup :=
  (nodup_uniqueValues _).sublist (List.take_sublist _ _)

/-- A wasted slot leaves an allowed candidate out while every limit is open. -/
lemma SlotWasted.unfair {ranked : List CandidateChunk} {excerpts : List SourceRecallExcerpt}
    (h : SlotWasted query budget ranked)
    (hranked : ∀ candidate ∈ ranked, candidate ∈ candidateChunks platform document query budget)
    (hexcerpts : excerpts = (servedCandidates budget ranked).map fun candidate =>
      buildBudgetedExcerpt candidate query.exactQuote budget) :
    ∃ candidate ∈ ranked, ¬RuledOut budget candidate ∧
      ¬ShownIn query budget excerpts candidate ∧ ¬UsedUp budget excerpts candidate := by
  obtain ⟨held, hheld, hruled, hopened⟩ := h.held
  obtain ⟨candidate, hcandidate, hallowed, hclosed⟩ := h.lacked
  have hids : excerpts.map (·.sourceRecordId) =
      (servedCandidates budget ranked).map (·.record.sourceRecordId) := by
    rw [hexcerpts, recordIds_of_served]
  refine ⟨candidate, hcandidate, hallowed, fun hshown => ?_, ?_⟩
  · have hmem := sourceRecordId_mem_of_shownIn hshown
    rw [hids] at hmem
    obtain ⟨served, hserved, hid⟩ := List.mem_map.mp hmem
    have hslot := (List.mem_filter.mp hserved).2
    simp only [hid, decide_eq_true_eq] at hslot
    exact hclosed hslot.1
  · rintro (hrecords | hchunks | hchars)
    · -- the held slot has no excerpt, so the others are fewer than the slots
      have hsubset : otherRecordIds excerpts candidate ⊆
          (openedRecords budget ranked).erase held.record.sourceRecordId := by
        intro id hid
        have hmem := mem_uniqueValues.mp (List.mem_filter.mp hid).1
        rw [hids] at hmem
        obtain ⟨served, hserved, rfl⟩ := List.mem_map.mp hmem
        obtain ⟨hin, hslot⟩ := List.mem_filter.mp hserved
        simp only [decide_eq_true_eq] at hslot
        refine (List.Nodup.mem_erase_iff (openedRecords_nodup ranked)).mpr ⟨fun hsame => ?_,
          hslot.1⟩
        have hrecord := record_eq_of_id (hranked served hin) (hranked held hheld) hsame
        exact hslot.2 ⟨hrecord ▸ hruled.1, hruled.2⟩
      have hnodup : (otherRecordIds excerpts candidate).Nodup :=
        (nodup_uniqueValues _).filter _
      have hle := (hnodup.subperm hsubset).length_le
      rw [List.length_erase_of_mem hopened] at hle
      have hpos := List.length_pos_of_mem hopened
      have hmax : (openedRecords budget ranked).length ≤ budget.maxRecords :=
        List.length_take_le _ _
      omega
    · rw [hexcerpts, List.length_map] at hchunks
      exact Nat.not_lt.mpr hchunks h.chunks
    · rw [hexcerpts, List.map_map] at hchars
      exact Nat.not_lt.mpr hchars h.chars

/-- Where no slot is wasted, an allowed candidate without an excerpt finds a limit reached. -/
lemma usedUp_of_not_shown {ranked : List CandidateChunk} {excerpts : List SourceRecallExcerpt}
    {candidate : CandidateChunk} (h : ¬SlotWasted query budget ranked)
    (hcandidate : candidate ∈ ranked) (hallowed : ¬RuledOut budget candidate)
    (hwhole : excerpts.length < budget.maxChunks →
      (excerpts.map (·.excerpt.length)).sum < budget.maxTotalExcerptChars →
      excerpts = (servedCandidates budget ranked).map fun candidate =>
        buildBudgetedExcerpt candidate query.exactQuote budget)
    (hshown : ¬ShownIn query budget excerpts candidate) :
    UsedUp budget excerpts candidate := by
  by_contra hopen
  simp only [UsedUp, not_or, not_le] at hopen
  obtain ⟨hrecords, hchunks, hchars⟩ := hopen
  have hexcerpts := hwhole hchunks hchars
  have hclosed : candidate.record.sourceRecordId ∉ openedRecords budget ranked := by
    intro hopened
    refine hshown ?_
    rw [hexcerpts]
    exact shownIn_of_served (List.mem_filter.mpr ⟨hcandidate, by simp [hopened, hallowed]⟩)
  -- the slots are all taken, as the candidate's record has none
  have hfull : (openedRecords budget ranked).length = budget.maxRecords := by
    have hseen : candidate.record.sourceRecordId ∈ rankedRecordIds ranked :=
      mem_rankedRecordIds.mpr ⟨candidate, hcandidate, rfl⟩
    by_contra hshort
    refine hclosed ?_
    unfold openedRecords at hshort ⊢
    rw [List.length_take] at hshort
    rwa [List.take_of_length_le (by omega)]
  have hsubset : openedRecords budget ranked ⊆ otherRecordIds excerpts candidate := by
    intro id hid
    have hseen : id ∈ rankedRecordIds ranked := List.mem_of_mem_take hid
    obtain ⟨holder, hholder, rfl⟩ := mem_rankedRecordIds.mp hseen
    have hholderAllowed : ¬RuledOut budget holder := by
      intro hruled
      refine h ⟨⟨holder, hholder, hruled, hid⟩, ⟨candidate, hcandidate, hallowed, hclosed⟩, ?_, ?_⟩
      · rwa [hexcerpts, List.length_map] at hchunks
      · rwa [hexcerpts, List.map_map] at hchars
    have hserved : holder ∈ servedCandidates budget ranked :=
      List.mem_filter.mpr ⟨hholder, by simp [hid, hholderAllowed]⟩
    refine List.mem_filter.mpr ⟨mem_uniqueValues.mpr ?_, ?_⟩
    · rw [hexcerpts, recordIds_of_served]
      exact List.mem_map_of_mem hserved
    · refine decide_eq_true fun hsame => hclosed ?_
      rwa [hsame] at hid
  have hle := ((openedRecords_nodup ranked).subperm hsubset).length_le
  omega

lemma mem_rankedCandidates {candidate : CandidateChunk} :
    candidate ∈ rankedCandidates platform hostSort document query budget ↔
      candidate ∈ candidateChunks platform document query budget :=
  hostSort.mem_sort

variable (platform hostSort document query) in
/-- What a retrieval has shared out when it is over. -/
lemma sharedOut_retrieval (budget : SourceRecallOutputBudget) :
    ∃ progress, (retrieveSourceRecall platform hostSort document query budget).excerpts =
        progress.excerpts ∧
      progress.totalCharsReturned = (progress.excerpts.map (·.excerpt.length)).sum ∧
      SharedOut query (normalizeSourceRecallOutputBudget budget)
        (rankedCandidates platform hostSort document query
          (normalizeSourceRecallOutputBudget budget)) progress := by
  have hwithin := withinBudget_foldl
    (rankedCandidates platform hostSort document query (normalizeSourceRecallOutputBudget budget))
    (fun candidate hcandidate => mem_rankedCandidates.mp hcandidate)
    (withinBudget_start query (normalizeSourceRecallOutputBudget budget) _
      (document.chunks.countP fun chunk => (judgeChunk platform document.records query
        (normalizeSourceRecallOutputBudget budget) chunk).isBlocked))
  exact ⟨_, rfl, hwithin.total, SharedOut.foldl _ _⟩

end Fairness

/-- An allowed candidate is missing only where the excerpts reach a limit, exactly when no record
that is ruled out wastes a slot. -/
theorem recall_budget_fair_iff (platform : Platform) (hostSort : HostSort)
    (document : SourceRecallDocument) (query : SourceRecallRetrievalQuery)
    (budget : SourceRecallOutputBudget) :
    (∀ candidate ∈ candidateChunks platform document query
        (normalizeSourceRecallOutputBudget budget),
      ¬RuledOut (normalizeSourceRecallOutputBudget budget) candidate →
      ¬ShownIn query (normalizeSourceRecallOutputBudget budget)
        (retrieveSourceRecall platform hostSort document query budget).excerpts candidate →
      UsedUp (normalizeSourceRecallOutputBudget budget)
        (retrieveSourceRecall platform hostSort document query budget).excerpts candidate) ↔
    ¬SlotWasted query (normalizeSourceRecallOutputBudget budget)
      (rankedCandidates platform hostSort document query
        (normalizeSourceRecallOutputBudget budget)) := by
  obtain ⟨progress, hexcerpts, htotal, hshared⟩ :=
    sharedOut_retrieval query platform hostSort document budget
  rw [hexcerpts]
  constructor
  · intro hfair hwasted
    have hcount := hshared.count
    have hchars := hshared.chars
    have hchunkRoom := hwasted.chunks
    have hcharRoom := hwasted.chars
    obtain ⟨candidate, hcandidate, hallowed, hmissing, hopen⟩ :=
      hwasted.unfair (fun candidate hcandidate => mem_rankedCandidates.mp hcandidate)
        (hshared.whole (by omega) (by omega))
    exact hopen (hfair candidate (mem_rankedCandidates.mp hcandidate) hallowed hmissing)
  · intro hkept candidate hcandidate hallowed hmissing
    refine usedUp_of_not_shown hkept (mem_rankedCandidates.mpr hcandidate) hallowed
      (fun hchunks hchars => hshared.whole hchunks ?_) hmissing
    rwa [htotal]

/-- A sensitive turn of Ada beside an ordinary one, in a retrieval of one record that leaves
sensitive records out. -/
def sensitiveFirstDocument : SourceRecallDocument where
  records :=
    [{ turnRecord "turn_1" "ada" .active with sensitive := true, freshness := .currentTurn },
      turnRecord "turn_2" "ada" .active]
  chunks := [turnChunk "chunk_1" "turn_1" "the gate code is 4711",
    turnChunk "chunk_2" "turn_2" "see you at noon"]

def oneRecordBudget : SourceRecallOutputBudget :=
  { turnBudget with maxRecords := 1, sensitivityRedactionPolicy := .excludeSensitive }

/-- The ordinary turn is left out although nothing is returned at all. -/
theorem sensitive_record_keeps_slot :
    ¬(∀ candidate ∈ candidateChunks recallPlatform sensitiveFirstDocument (speakerQuery "ada")
        (normalizeSourceRecallOutputBudget oneRecordBudget),
      ¬RuledOut (normalizeSourceRecallOutputBudget oneRecordBudget) candidate →
      ¬ShownIn (speakerQuery "ada") (normalizeSourceRecallOutputBudget oneRecordBudget)
        (retrieveSourceRecall recallPlatform .insertion sensitiveFirstDocument
          (speakerQuery "ada") oneRecordBudget).excerpts candidate →
      UsedUp (normalizeSourceRecallOutputBudget oneRecordBudget)
        (retrieveSourceRecall recallPlatform .insertion sensitiveFirstDocument
          (speakerQuery "ada") oneRecordBudget).excerpts candidate) := by
  have hempty : (retrieveSourceRecall recallPlatform .insertion sensitiveFirstDocument
      (speakerQuery "ada") oneRecordBudget).excerpts.length = 0 := by decide
  rw [List.length_eq_zero_iff.mp hempty]
  intro hfair
  have hordinary : (candidateChunks recallPlatform sensitiveFirstDocument (speakerQuery "ada")
      (normalizeSourceRecallOutputBudget oneRecordBudget)).any (!·.record.sensitive) = true := by
    decide
  obtain ⟨candidate, hcandidate, hsensitive⟩ := List.any_eq_true.mp hordinary
  have hallowed : ¬RuledOut (normalizeSourceRecallOutputBudget oneRecordBudget) candidate := by
    intro hruled
    simp [hruled.1] at hsensitive
  have hused := hfair candidate hcandidate hallowed (by simp [ShownIn])
  have hnone : otherRecordIds [] candidate = [] := rfl
  rw [UsedUp, hnone] at hused
  revert hused
  decide

end AgentBigBrain.Core
