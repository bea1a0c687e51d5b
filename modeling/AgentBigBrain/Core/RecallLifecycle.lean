import AgentBigBrain.Core.RecallAccess
import AgentBigBrain.Lib.Runs

/-!
# Forgotten sources

Captures and marks change the stored document one after another, and each of them reads the document
that the one before has saved. Once a record was marked, no mark brings its text back; a capture of
the same source does, because it replaces the marked record and its chunks.
-/
namespace AgentBigBrain.Core

open AgentBigBrain.Js AgentBigBrain.Lib

variable {platform : Platform} {hostSort : HostSort} {document : SourceRecallDocument}

/-! ## Runs of the store -/

/-- The states that a mark leaves behind. -/
def SourceRecallLifecycleState.isMark : SourceRecallLifecycleState → Bool
  | .redacted | .forgotten | .expired | .quarantined => true
  | .active | .projectionOnlyRemoved => false

/-- The ids of the records that stand marked. -/
def markedIds (document : SourceRecallDocument) : List String :=
  (document.records.filter (·.lifecycleState.isMark)).map (·.sourceRecordId)

structure RecallState where
  /-- The document as the next call loads it. -/
  document : SourceRecallDocument
  /-- The ids of the records that have been marked. -/
  marked : List String

def RecallState.empty : RecallState := ⟨.empty, []⟩

inductive RecallEvent where
  | upsert (record : SourceRecallRecord) (chunks : List SourceRecallChunk)
  | forget (sourceRecordId : String)
  | markByParent (parentRefId : String) (mark : ParentMark)

variable (platform hostSort) in
/-- The document that the call saves. -/
def RecallEvent.save (document : SourceRecallDocument) : RecallEvent → SourceRecallDocument
  | .upsert record chunks =>
      upsertSourceRecallRecordInDocument platform hostSort document record chunks
  | .forget sourceRecordId =>
      markSourceRecallRecordForgottenInDocument platform hostSort document sourceRecordId
  | .markByParent parentRefId mark =>
      markSourceRecallRecordsByOriginParentRefInDocument platform hostSort document parentRefId
        mark

variable (platform hostSort) in
def recallStep (state : RecallState) (event : RecallEvent) : Option RecallState :=
  let document := parseSourceRecallDocument platform hostSort
    (event.save platform hostSort state.document)
  some { document := document, marked := state.marked ++ markedIds document }

variable (platform hostSort) in
/-- Some retrieval returns text of the record or its chunks. -/
def ReturnsText (document : SourceRecallDocument) (id : String) : Prop :=
  ∃ query budget, ∃ excerpt ∈
      (retrieveSourceRecall platform hostSort document query budget).excerpts,
    excerpt.sourceRecordId = id ∧ excerpt.redacted = false ∧ excerpt.excerpt ≠ []

variable (platform hostSort) in
/-- Nothing of the marked records is returned. -/
def StaysHidden (state : RecallState) : Prop :=
  ∀ id ∈ state.marked, ¬ ReturnsText platform hostSort state.document id

/-- The record is active, of a known kind and role, and not sensitive. -/
def SourceRecallRecord.isOpen (record : SourceRecallRecord) : Bool :=
  decide (record.lifecycleState = .active) && decide (record.sourceKind ≠ .unknown) &&
    decide (record.sourceRole ≠ .unknown) && !record.sensitive

def SourceRecallChunk.hasText (chunk : SourceRecallChunk) : Bool :=
  decide (chunk.lifecycleState = .active) && decide (chunk.text ≠ "")

/-- The call does not bring a marked record back: a capture under the id of a record that has been
marked is not of an open record with text in an active chunk. -/
def KeepsHidden (state : RecallState) : RecallEvent → Prop
  | .upsert record chunks => ¬ (trim record.sourceRecordId ∈ state.marked ∧
      record.isOpen = true ∧ chunks.any (·.hasText) = true)
  | .forget _ | .markByParent _ _ => True

/-! ## What a document can show -/

/-- The document holds an open record with the id, and text for it. -/
def ShowsText (document : SourceRecallDocument) (id : String) : Prop :=
  (∃ record ∈ document.records, record.sourceRecordId = id ∧ record.isOpen = true) ∧
    ∃ chunk ∈ document.chunks, chunk.sourceRecordId = id ∧ chunk.hasText = true

/-- The ids are trimmed, and no two records share one. -/
structure KeyedDocument (document : SourceRecallDocument) : Prop where
  record_trim : ∀ record ∈ document.records, trim record.sourceRecordId = record.sourceRecordId
  chunk_trim : ∀ chunk ∈ document.chunks, trim chunk.sourceRecordId = chunk.sourceRecordId
  distinct : (document.records.map (·.sourceRecordId)).Nodup

lemma KeyedDocument.recordById (h : KeyedDocument document) {record : SourceRecallRecord}
    (hrecord : record ∈ document.records) :
    recordById document.records record.sourceRecordId = some record := by
  have hfound : (AgentBigBrain.Core.recordById document.records record.sourceRecordId).isSome =
      true := by
    rw [AgentBigBrain.Core.recordById, List.find?_isSome]
    exact ⟨record, List.mem_reverse.mpr hrecord, decide_eq_true rfl⟩
  obtain ⟨found, hfound⟩ := Option.isSome_iff_exists.mp hfound
  obtain ⟨hmem, hid⟩ := recordById_mem hfound
  rw [hfound, List.inj_on_of_nodup_map h.distinct hmem hrecord hid]

lemma codeUnits_eq_nil {text : String} (h : codeUnits text = []) : text = "" :=
  codeUnits_injective (h.trans (by rfl))

lemma showsText_of_returnsText {id : String} (h : ReturnsText platform hostSort document id) :
    ShowsText document id := by
  obtain ⟨query, budget, excerpt, hexcerpt, hid, hredacted, htext⟩ := h
  obtain ⟨progress, hexcerpts, hwithin⟩ :=
    withinBudget_retrieval platform hostSort document query budget
  rw [hexcerpts] at hexcerpt
  obtain ⟨record, chunk, hmatch, hof⟩ := hwithin.sound.fromActive excerpt hexcerpt
  have hsensitive : record.sensitive = false := hof.redacted.symm.trans hredacted
  have hkind : record.sourceKind ≠ .unknown := by
    have hallowed := hmatch.recordMatches.kindAllowed
    simpa using (List.mem_filter.mp hallowed).2
  have hrole : record.sourceRole ≠ .unknown := by
    have hallowed := hmatch.recordMatches.roleAllowed
    simpa using (List.mem_filter.mp hallowed).2
  have hnonempty : chunk.text ≠ "" := by
    rintro hempty
    have hwithin := hof.text hsensitive
    rw [hempty] at hwithin
    exact htext (List.infix_nil.mp hwithin)
  have hchunk : chunk.sourceRecordId = id := by
    rw [← hid, hof.recordId]
    exact (recordById_mem hmatch.record_of).2.symm
  refine ⟨⟨record, hmatch.record_mem, hof.recordId.symm.trans hid, ?_⟩, chunk, hmatch.chunk_mem,
    hchunk, ?_⟩
  · simp [SourceRecallRecord.isOpen, hmatch.record_active, hkind, hrole, hsensitive]
  · simp [SourceRecallChunk.hasText, hmatch.chunk_active, hnonempty]

/-! ## A retrieval with room for everything -/

section Room

variable {query : SourceRecallRetrievalQuery} {budget : NormalizedOutputBudget}
  {progress : RecallProgress} {candidate : CandidateChunk} {n : ℕ}

/-- The budget leaves one unit of text for each of `n` more candidates. -/
structure Room (budget : NormalizedOutputBudget) (progress : RecallProgress) (n : ℕ) : Prop where
  policy : budget.sensitivityRedactionPolicy = .redactSensitive
  perChunk : budget.maxExcerptCharsPerChunk = 1
  records : progress.includedRecordIds.length + n ≤ budget.maxRecords
  chunks : progress.excerpts.length + n ≤ budget.maxChunks
  total : progress.totalCharsReturned + n < budget.maxTotalExcerptChars

/-- A part of the candidate's excerpt is among those kept. -/
def Kept (query : SourceRecallRetrievalQuery) (budget : NormalizedOutputBudget)
    (progress : RecallProgress) (candidate : CandidateChunk) : Prop :=
  ∃ left, 0 < left ∧
    { buildBudgetedExcerpt candidate query.exactQuote budget with
      excerpt := (buildBudgetedExcerpt candidate query.exactQuote budget).excerpt.take left } ∈
        progress.excerpts

lemma takeExcerpt_room (hpolicy : budget.sensitivityRedactionPolicy = .redactSensitive)
    (hperChunk : budget.maxExcerptCharsPerChunk = 1)
    (hrecords : progress.includedRecordIds.length + n ≤ budget.maxRecords)
    (hchunks : progress.excerpts.length + (n + 1) ≤ budget.maxChunks)
    (htotal : progress.totalCharsReturned + (n + 1) < budget.maxTotalExcerptChars) :
    Room budget (takeExcerpt query budget progress candidate) n ∧
      Kept query budget (takeExcerpt query budget progress candidate) candidate := by
  have hone : (buildBudgetedExcerpt candidate query.exactQuote budget).excerpt.length ≤ 1 :=
    hperChunk ▸ (excerptOf_buildBudgetedExcerpt candidate query.exactQuote budget).2
  have htaken : ((buildBudgetedExcerpt candidate query.exactQuote budget).excerpt.take
      (budget.maxTotalExcerptChars - progress.totalCharsReturned)).length ≤ 1 :=
    (List.length_take_le' _ _).trans hone
  have hleft : budget.maxTotalExcerptChars - progress.totalCharsReturned ≠ 0 := by omega
  unfold takeExcerpt
  dsimp only
  rw [if_neg (by omega), if_neg (by simp [hpolicy]), if_neg hleft]
  refine ⟨⟨hpolicy, hperChunk, hrecords, ?_, ?_⟩, _, Nat.pos_of_ne_zero hleft,
    List.mem_append_right _ (List.mem_singleton.mpr rfl)⟩
  · simp only [List.length_append, List.length_singleton]
    omega
  · dsimp only
    omega

lemma Room.takeCandidate (h : Room budget progress (n + 1)) :
    Room budget (takeCandidate query budget progress candidate) n ∧
      Kept query budget (takeCandidate query budget progress candidate) candidate := by
  have hrecords := h.records
  unfold AgentBigBrain.Core.takeCandidate
  split_ifs with hincluded hfull
  · exact takeExcerpt_room h.policy h.perChunk (by omega) h.chunks h.total
  · omega
  · refine takeExcerpt_room h.policy h.perChunk ?_ h.chunks h.total
    simp only [List.length_append, List.length_singleton]
    omega

lemma subset_takeExcerpt :
    progress.excerpts ⊆ (takeExcerpt query budget progress candidate).excerpts := by
  unfold takeExcerpt
  dsimp only
  split_ifs
  · exact List.Subset.refl _
  · exact List.Subset.refl _
  · exact List.Subset.refl _
  · exact List.subset_append_left _ _

lemma subset_takeCandidate :
    progress.excerpts ⊆ (takeCandidate query budget progress candidate).excerpts := by
  unfold takeCandidate
  split_ifs
  · exact subset_takeExcerpt
  · exact List.Subset.refl _
  · intro excerpt hexcerpt
    exact subset_takeExcerpt hexcerpt

lemma subset_foldl (candidates : List CandidateChunk) :
    progress.excerpts ⊆ (candidates.foldl (takeCandidate query budget) progress).excerpts := by
  induction candidates generalizing progress with
  | nil => exact List.Subset.refl _
  | cons candidate candidates ih => exact List.Subset.trans subset_takeCandidate ih

lemma Room.kept_foldl {candidates : List CandidateChunk}
    (h : Room budget progress candidates.length) (hcandidate : candidate ∈ candidates) :
    Kept query budget (candidates.foldl (AgentBigBrain.Core.takeCandidate query budget) progress)
      candidate := by
  induction candidates generalizing progress with
  | nil => cases hcandidate
  | cons other candidates ih =>
      obtain ⟨hroom, hkept⟩ := @Room.takeCandidate query budget progress other _ h
      rcases List.mem_cons.mp hcandidate with rfl | hlater
      · obtain ⟨left, hpos, hmem⟩ := hkept
        exact ⟨left, hpos, subset_foldl candidates hmem⟩
      · exact ih hroom hlater

end Room

/-- The owner in a private conversation. -/
def ownerAccess : TaskPrincipalAccessEnvelope where
  actor := some (.obj [("principalRole", .str "owner")])
  route := some (.obj [("visibility", .str "private")])
  accessDecision :=
    { decisionId := "decision", requestId := "request", operation := "source_recall_retrieve",
      accessClass := "owner_private", allowed := true, reason := "owner" }

/-- The owner asks for everything. -/
def ownerQuery : SourceRecallRetrievalQuery where
  scopeId := none
  threadId := none
  sourceRecordId := none
  chunkId := none
  exactQuote := none
  sourceKinds := none
  sourceRoles := none
  keywords := none
  semanticVectorChunkIds := none
  principalAccess := some ownerAccess

/-- Room for one unit of text of each of `n` chunks. -/
def wideBudget (kind : SourceRecallSourceKind) (role : SourceRecallSourceRole) (n : ℕ) :
    SourceRecallOutputBudget where
  maxRecords := n
  maxChunks := n
  maxExcerptCharsPerChunk := 1
  maxTotalExcerptChars := n + 1
  sourceKindAllowlist := [kind]
  sourceRoleAllowlist := [role]
  sensitivityRedactionPolicy := .redactSensitive

@[simp] lemma maxExcerptCharsPerChunk_wideBudget (kind : SourceRecallSourceKind)
    (role : SourceRecallSourceRole) (n : ℕ) :
    (normalizeSourceRecallOutputBudget (wideBudget kind role n)).maxExcerptCharsPerChunk = 1 := rfl

lemma owner_matches (record : SourceRecallRecord) :
    matchesPrincipalAccess record (some ownerAccess) = true := by
  have hallows : ownerAccess.allowsSourceRecall = true := by decide
  have howner : ownerAccess.isOwnerOrOperator = true := by decide
  have hprivate : ownerAccess.onPublicRoute = false := by decide
  cases hmetadata : record.principalMetadata <;>
    simp [matchesPrincipalAccess, hallows, howner, hprivate, hmetadata]

variable (platform) in
lemma scoreCandidate_ownerQuery (record : SourceRecallRecord) (chunk : SourceRecallChunk) :
    ∃ ranking, scoreCandidate platform record chunk ownerQuery = some ranking :=
  ⟨_, rfl⟩

lemma buildBudgetedExcerpt_unquoted {candidate : CandidateChunk} {budget : NormalizedOutputBudget}
    (h : candidate.record.sensitive = false) :
    (buildBudgetedExcerpt candidate none budget).excerpt =
      (codeUnits candidate.chunk.text).take budget.maxExcerptCharsPerChunk := by
  unfold buildBudgetedExcerpt
  dsimp only
  rw [if_neg (by simp [h])]
  rfl

variable (platform) in
/-- What the document holds for the id, the owner's query finds. -/
lemma exists_candidate (hkeyed : KeyedDocument document) {record : SourceRecallRecord}
    (hrecord : record ∈ document.records) (hopen : record.isOpen = true)
    {chunk : SourceRecallChunk} (hchunk : chunk ∈ document.chunks)
    (hof : chunk.sourceRecordId = record.sourceRecordId) (htext : chunk.hasText = true) (n : ℕ) :
    ∃ ranking, { record := record, chunk := chunk, ranking := ranking } ∈
      candidateChunks platform document ownerQuery
        (normalizeSourceRecallOutputBudget (wideBudget record.sourceKind record.sourceRole n)) := by
  obtain ⟨ranking, hranking⟩ := scoreCandidate_ownerQuery platform record chunk
  simp only [SourceRecallRecord.isOpen, Bool.and_eq_true, decide_eq_true_eq] at hopen
  simp only [SourceRecallChunk.hasText, Bool.and_eq_true, decide_eq_true_eq] at htext
  obtain ⟨⟨⟨hactive, hkind⟩, hrole⟩, -⟩ := hopen
  have hmatches : matchesRecordQuery record ownerQuery (normalizeSourceRecallOutputBudget
      (wideBudget record.sourceKind record.sourceRole n)) = true := by
    refine matchesRecordQuery_iff.mpr ⟨?_, ?_, ?_, ?_, ?_, ?_, ?_, owner_matches record⟩
    all_goals simp [ownerQuery, asked, normalizeSourceRecallOutputBudget, wideBudget, hkind, hrole]
  refine ⟨ranking, List.mem_filterMap.mpr ⟨chunk, hchunk, ?_⟩⟩
  rw [toCandidate_judgeChunk, hof, hkeyed.recordById hrecord, Option.bind_some, hranking, if_pos]
  · rfl
  · have hvisible : isRecordAndChunkVisible record chunk = true := by
      simp [isRecordAndChunkVisible, isSourceRecallLifecycleVisible, hactive, htext.1]
    rw [admitted, hvisible, hmatches]
    rfl

lemma returnsText_of_showsText (hkeyed : KeyedDocument document) {id : String}
    (h : ShowsText document id) : ReturnsText platform hostSort document id := by
  obtain ⟨⟨record, hrecord, rfl, hopen⟩, chunk, hchunk, hof, htext⟩ := h
  obtain ⟨ranking, hcandidate⟩ := exists_candidate platform hkeyed hrecord hopen hchunk hof htext
    document.chunks.length
  refine ⟨ownerQuery, wideBudget record.sourceKind record.sourceRole document.chunks.length, ?_⟩
  have hsensitive : record.sensitive = false := by
    simp only [SourceRecallRecord.isOpen, Bool.and_eq_true, Bool.not_eq_true'] at hopen
    exact hopen.2
  have hunits : codeUnits chunk.text ≠ [] := by
    simp only [SourceRecallChunk.hasText, Bool.and_eq_true, decide_eq_true_eq] at htext
    exact fun hnil => htext.2 (codeUnits_eq_nil hnil)
  have hcount : (candidateChunks platform document ownerQuery (normalizeSourceRecallOutputBudget
      (wideBudget record.sourceKind record.sourceRole document.chunks.length))).length ≤
        document.chunks.length :=
    List.length_filterMap_le _ _
  have hroom : ∀ (blocked : ℕ) (candidates : List CandidateChunk),
      candidates.length ≤ document.chunks.length →
        Room (normalizeSourceRecallOutputBudget
          (wideBudget record.sourceKind record.sourceRole document.chunks.length))
          ⟨[], [], 0, blocked⟩ candidates.length := by
    intro blocked candidates hlength
    refine ⟨rfl, ?_, ?_, ?_, ?_⟩
    all_goals simp [normalizeSourceRecallOutputBudget, wideBudget]
    all_goals omega
  obtain ⟨left, hleft, hmem⟩ :=
    (hroom _ _ ((hostSort.perm _ _).length_eq.trans_le hcount)).kept_foldl
      (hostSort.mem_sort.mpr hcandidate)
  have hof := (excerptOf_buildBudgetedExcerpt
    { record := record, chunk := chunk, ranking := ranking } ownerQuery.exactQuote
    (normalizeSourceRecallOutputBudget
      (wideBudget record.sourceKind record.sourceRole document.chunks.length))).1
  refine ⟨_, hmem, hof.recordId, hof.redacted.trans hsensitive, ?_⟩
  simp [buildBudgetedExcerpt_unquoted, hsensitive, ownerQuery, hunits, hleft.ne']

/-! ## What one call changes -/

lemma mem_sortedDocument_records {records : List SourceRecallRecord}
    {chunks : List SourceRecallChunk} {record : SourceRecallRecord} :
    record ∈ (sortedDocument platform hostSort records chunks).records ↔ record ∈ records :=
  hostSort.mem_sort

lemma mem_sortedDocument_chunks {records : List SourceRecallRecord}
    {chunks : List SourceRecallChunk} {chunk : SourceRecallChunk} :
    chunk ∈ (sortedDocument platform hostSort records chunks).chunks ↔ chunk ∈ chunks :=
  hostSort.mem_sort

lemma mem_parse_records {record : SourceRecallRecord} :
    record ∈ (parseSourceRecallDocument platform hostSort document).records ↔
      ∃ stored ∈ document.records, normalizeSourceRecallRecord stored = record := by
  rw [parseSourceRecallDocument, mem_sortedDocument_records, List.mem_map]

lemma mem_parse_chunks {chunk : SourceRecallChunk} :
    chunk ∈ (parseSourceRecallDocument platform hostSort document).chunks ↔
      ∃ stored ∈ document.chunks, normalizeSourceRecallChunk stored = chunk := by
  rw [parseSourceRecallDocument, mem_sortedDocument_chunks, List.mem_map]

/-- What is saved with trimmed ids of its own is read back so. -/
lemma KeyedDocument.parse (h : KeyedDocument document) :
    KeyedDocument (parseSourceRecallDocument platform hostSort document) := by
  have hids : (document.records.map normalizeSourceRecallRecord).map (·.sourceRecordId) =
      document.records.map (·.sourceRecordId) := by
    rw [List.map_map]
    exact List.map_congr_left h.record_trim
  refine ⟨fun record hrecord => ?_, fun chunk hchunk => ?_, ?_⟩
  · obtain ⟨stored, -, rfl⟩ := mem_parse_records.mp hrecord
    exact trim_trim _
  · obtain ⟨stored, -, rfl⟩ := mem_parse_chunks.mp hchunk
    exact trim_trim _
  · refine (((hostSort.perm _ _).map _).nodup_iff).mpr ?_
    rw [hids]
    exact h.distinct

lemma showsText_parse (h : KeyedDocument document) {id : String} :
    ShowsText (parseSourceRecallDocument platform hostSort document) id ↔
      ShowsText document id := by
  constructor
  · rintro ⟨⟨record, hrecord, rfl, hopen⟩, chunk, hchunk, hof, htext⟩
    obtain ⟨storedRecord, hstoredRecord, rfl⟩ := mem_parse_records.mp hrecord
    obtain ⟨storedChunk, hstoredChunk, rfl⟩ := mem_parse_chunks.mp hchunk
    have hid := h.record_trim storedRecord hstoredRecord
    refine ⟨⟨storedRecord, hstoredRecord, hid.symm, hopen⟩, storedChunk, hstoredChunk, ?_, htext⟩
    exact (h.chunk_trim storedChunk hstoredChunk).symm.trans hof
  · rintro ⟨⟨record, hrecord, rfl, hopen⟩, chunk, hchunk, hof, htext⟩
    refine ⟨⟨_, mem_parse_records.mpr ⟨record, hrecord, rfl⟩, h.record_trim record hrecord, hopen⟩,
      _, mem_parse_chunks.mpr ⟨chunk, hchunk, rfl⟩, ?_, htext⟩
    exact (h.chunk_trim chunk hchunk).trans hof

lemma KeyedDocument.sorted {records : List SourceRecallRecord} {chunks : List SourceRecallChunk}
    (hrecords : ∀ record ∈ records, trim record.sourceRecordId = record.sourceRecordId)
    (hchunks : ∀ chunk ∈ chunks, trim chunk.sourceRecordId = chunk.sourceRecordId)
    (hdistinct : (records.map (·.sourceRecordId)).Nodup) :
    KeyedDocument (sortedDocument platform hostSort records chunks) :=
  ⟨fun record hrecord => hrecords record (mem_sortedDocument_records.mp hrecord),
    fun chunk hchunk => hchunks chunk (mem_sortedDocument_chunks.mp hchunk),
    (((hostSort.perm _ _).map _).nodup_iff).mpr hdistinct⟩

lemma KeyedDocument.upsert (h : KeyedDocument document) (record : SourceRecallRecord)
    (chunks : List SourceRecallChunk) :
    KeyedDocument
      (upsertSourceRecallRecordInDocument platform hostSort document record chunks) := by
  refine KeyedDocument.sorted (fun other hother => ?_) (fun chunk hchunk => ?_) ?_
  · rcases List.mem_append.mp hother with hold | hnew
    · exact h.record_trim other (List.mem_filter.mp hold).1
    · obtain rfl := List.mem_singleton.mp hnew
      exact trim_trim _
  · rcases List.mem_append.mp hchunk with hold | hnew
    · exact h.chunk_trim chunk (List.mem_filter.mp hold).1
    · obtain ⟨given, -, rfl⟩ := List.mem_map.mp (hostSort.mem_sort.mp hnew)
      exact trim_trim _
  · rw [List.map_append, List.nodup_append]
    refine ⟨h.distinct.sublist (List.filter_sublist.map _), List.nodup_singleton _, ?_⟩
    intro id hid other hother
    obtain ⟨existing, hexisting, rfl⟩ := List.mem_map.mp hid
    obtain rfl := List.mem_singleton.mp hother
    simpa using (List.mem_filter.mp hexisting).2

/-- A capture decides what is shown under its id, and nothing else. -/
lemma showsText_upsert {record : SourceRecallRecord} {chunks : List SourceRecallChunk}
    {id : String} :
    ShowsText (upsertSourceRecallRecordInDocument platform hostSort document record chunks) id ↔
      if id = trim record.sourceRecordId then
        record.isOpen = true ∧ chunks.any (·.hasText) = true
      else ShowsText document id := by
  unfold ShowsText upsertSourceRecallRecordInDocument
  dsimp only
  simp only [mem_sortedDocument_records, mem_sortedDocument_chunks, List.mem_append,
    List.mem_filter, List.mem_singleton, hostSort.mem_sort, List.mem_map, decide_eq_true_eq,
    ne_eq, List.any_eq_true]
  split_ifs with hid
  · subst hid
    constructor
    · rintro ⟨⟨found, ⟨-, hnotFound⟩ | rfl, hfound, hopen⟩, chunk,
        ⟨-, hother⟩ | ⟨given, hgiven, rfl⟩, hof, htext⟩
      · exact (hnotFound hfound).elim
      · exact (hnotFound hfound).elim
      · exact (hother hof).elim
      · exact ⟨hopen, given, hgiven, htext⟩
    · rintro ⟨hopen, given, hgiven, htext⟩
      exact ⟨⟨_, .inr rfl, rfl, hopen⟩, _, .inr ⟨given, hgiven, rfl⟩, trim_trim _, htext⟩
  · constructor
    · rintro ⟨⟨found, ⟨hfound, -⟩ | rfl, hfoundId, hopen⟩, chunk,
        ⟨hchunk, -⟩ | ⟨given, hgiven, rfl⟩, hof, htext⟩
      · exact ⟨⟨found, hfound, hfoundId, hopen⟩, chunk, hchunk, hof, htext⟩
      · exact (hid (hof.symm.trans (trim_trim _))).elim
      · exact (hid hfoundId.symm).elim
      · exact (hid hfoundId.symm).elim
    · rintro ⟨⟨found, hfound, hfoundId, hopen⟩, chunk, hchunk, hof, htext⟩
      refine ⟨⟨found, .inl ⟨hfound, ?_⟩, hfoundId, hopen⟩, chunk, .inl ⟨hchunk, ?_⟩, hof, htext⟩
      · exact fun hsame => hid (hfoundId.symm.trans hsame)
      · exact fun hsame => hid (hof.symm.trans hsame)

section Mark

variable {finds : SourceRecallRecord → Bool} {lifecycleState : SourceRecallLifecycleState}

lemma KeyedDocument.mark (h : KeyedDocument document) :
    KeyedDocument (markSourceRecallRecordsLifecycleInDocument platform hostSort document finds
      lifecycleState) := by
  unfold markSourceRecallRecordsLifecycleInDocument
  dsimp only
  have hids : ∀ record : SourceRecallRecord,
      (if record.sourceRecordId ∈ matchedRecordIds document finds then
        { record with lifecycleState := lifecycleState } else record).sourceRecordId =
          record.sourceRecordId := by
    intro record
    split_ifs <;> rfl
  refine KeyedDocument.sorted (fun record hrecord => ?_) (fun chunk hchunk => ?_) ?_
  · obtain ⟨stored, hstored, rfl⟩ := List.mem_map.mp hrecord
    rw [hids]
    exact h.record_trim stored hstored
  · obtain ⟨stored, hstored, rfl⟩ := List.mem_map.mp hchunk
    split_ifs
    · exact h.chunk_trim stored hstored
    · exact h.chunk_trim stored hstored
  · rw [List.map_map]
    exact (List.map_congr_left fun record _ => hids record) ▸ h.distinct

/-- A mark shows nothing that was not shown before. -/
lemma showsText_of_mark (hinactive : lifecycleState ≠ .active) {id : String}
    (h : ShowsText (markSourceRecallRecordsLifecycleInDocument platform hostSort document finds
      lifecycleState) id) : ShowsText document id := by
  unfold markSourceRecallRecordsLifecycleInDocument ShowsText at h
  dsimp only at h
  simp only [mem_sortedDocument_records, mem_sortedDocument_chunks, List.mem_map] at h
  obtain ⟨⟨_, ⟨record, hrecord, rfl⟩, hid, hopen⟩, _, ⟨chunk, hchunk, rfl⟩, hof, htext⟩ := h
  split_ifs at hid hopen
  · simp [SourceRecallRecord.isOpen, hinactive] at hopen
  · refine ⟨⟨record, hrecord, hid, hopen⟩, ?_⟩
    split_ifs at hof htext
    · simp [SourceRecallChunk.hasText, hinactive] at htext
    · exact ⟨chunk, hchunk, hof, htext⟩

end Mark

lemma ParentMark.state_ne (mark : ParentMark) : mark.state ≠ .active := by
  cases mark <;> decide

lemma KeyedDocument.save (h : KeyedDocument document) (event : RecallEvent) :
    KeyedDocument (event.save platform hostSort document) := by
  cases event with
  | upsert record chunks => exact h.upsert record chunks
  | forget sourceRecordId => exact h.mark
  | markByParent parentRefId mark =>
      unfold RecallEvent.save markSourceRecallRecordsByOriginParentRefInDocument
      dsimp only
      split_ifs
      · exact h
      · exact h.mark

/-- A record that stands marked shows no text. -/
lemma KeyedDocument.not_showsText (h : KeyedDocument document) {id : String}
    (hid : id ∈ markedIds document) : ¬ ShowsText document id := by
  obtain ⟨record, hrecord, rfl⟩ := List.mem_map.mp hid
  obtain ⟨hmem, hmarked⟩ := List.mem_filter.mp hrecord
  rintro ⟨⟨other, hother, hsame, hopen⟩, -⟩
  obtain rfl := List.inj_on_of_nodup_map h.distinct hother hmem hsame
  simp only [SourceRecallRecord.isOpen, Bool.and_eq_true, decide_eq_true_eq] at hopen
  rw [hopen.1.1.1] at hmarked
  cases hmarked

/-- What the store keeps. -/
structure HiddenKept (state : RecallState) : Prop where
  keyed : KeyedDocument state.document
  hidden : ∀ id ∈ state.marked, ¬ ShowsText state.document id

lemma HiddenKept.staysHidden {state : RecallState} (h : HiddenKept state) :
    StaysHidden platform hostSort state :=
  fun id hid hreturns => h.hidden id hid (showsText_of_returnsText hreturns)

/-- A call that keeps what is hidden shows no text under the id of a marked record. -/
lemma not_showsText_save {state : RecallState} (h : HiddenKept state) {event : RecallEvent}
    (hkeeps : KeepsHidden state event) {id : String} (hid : id ∈ state.marked) :
    ¬ ShowsText (event.save platform hostSort state.document) id := by
  intro hshows
  cases event with
  | upsert record chunks =>
      rw [RecallEvent.save, showsText_upsert] at hshows
      split_ifs at hshows with hsame
      · exact hkeeps ⟨hsame ▸ hid, hshows⟩
      · exact h.hidden id hid hshows
  | forget sourceRecordId =>
      exact h.hidden id hid (showsText_of_mark (by decide) hshows)
  | markByParent parentRefId mark =>
      unfold RecallEvent.save markSourceRecallRecordsByOriginParentRefInDocument at hshows
      dsimp only at hshows
      split_ifs at hshows
      · exact h.hidden id hid hshows
      · exact h.hidden id hid (showsText_of_mark mark.state_ne hshows)

lemma hiddenKept_step (state : RecallState) (event : RecallEvent) (h : HiddenKept state)
    (hkeeps : KeepsHidden state event) :
    ∃ next, recallStep platform hostSort state event = some next ∧ HiddenKept next := by
  have hsaved : KeyedDocument (event.save platform hostSort state.document) := h.keyed.save event
  refine ⟨_, rfl, hsaved.parse, fun id hid => ?_⟩
  rcases List.mem_append.mp hid with hold | hnew
  · rw [showsText_parse hsaved]
    exact not_showsText_save h hkeeps hold
  · exact hsaved.parse.not_showsText hnew

lemma not_staysHidden_step (state : RecallState) (event : RecallEvent) (next : RecallState)
    (h : HiddenKept state) (hkeeps : ¬ KeepsHidden state event)
    (hstep : recallStep platform hostSort state event = some next) :
    ¬ StaysHidden platform hostSort next := by
  have hsaved : KeyedDocument (event.save platform hostSort state.document) := h.keyed.save event
  obtain rfl := Option.some.inj hstep
  cases event with
  | upsert record chunks =>
      obtain ⟨hmarked, hshown⟩ := not_not.mp hkeeps
      intro hhidden
      refine hhidden _ (List.mem_append_left _ hmarked) (returnsText_of_showsText hsaved.parse ?_)
      rw [showsText_parse hsaved, RecallEvent.save, showsText_upsert, if_pos rfl]
      exact hshown
  | forget sourceRecordId => exact (hkeeps trivial).elim
  | markByParent parentRefId mark => exact (hkeeps trivial).elim

lemma hiddenKept_empty : HiddenKept .empty :=
  ⟨⟨by simp [RecallState.empty, SourceRecallDocument.empty],
    by simp [RecallState.empty, SourceRecallDocument.empty], List.nodup_nil⟩,
    by simp [RecallState.empty]⟩

/-- From an empty store, marked records stay hidden through a sequence of captures and marks exactly
if no capture in it brings one of them back. -/
theorem marked_stays_hidden_iff (platform : Platform) (hostSort : HostSort)
    (events : List RecallEvent) :
    Always (recallStep platform hostSort) (StaysHidden platform hostSort) .empty events ↔
      Along (recallStep platform hostSort) KeepsHidden .empty events := by
  have hassumed : Along (recallStep platform hostSort) (fun _ _ => True) .empty events :=
    along_of_forall fun _ _ => trivial
  exact always_iff_along (fun _ h => h.staysHidden)
    (fun state event h _ => hiddenKept_step state event h)
    (fun state event next h _ => not_staysHidden_step state event next h) hiddenKept_empty hassumed

/-- The turn of Ada, as it is captured each time. -/
def adaTurn : RecallEvent :=
  .upsert (turnRecord "turn_1" "ada" .active)
    [turnChunk "chunk_1" "turn_1" "the gate code is 4711"]

/-- The turn of Ada is captured, forgotten and captured again. -/
theorem recapture_brings_back :
    ¬ ∀ events, Always (recallStep recallPlatform .insertion)
      (StaysHidden recallPlatform .insertion) .empty events := by
  intro h
  obtain ⟨-, captured, hcaptured, -, forgotten, hforgotten, -, again, hagain, hhidden⟩ :=
    h [adaTurn, .forget "turn_1", adaTurn]
  have hshown : ∀ last ∈ run (recallStep recallPlatform .insertion) .empty
      [adaTurn, .forget "turn_1", adaTurn], "turn_1" ∈ last.marked ∧
        (retrieveSourceRecall recallPlatform .insertion last.document (speakerQuery "ada")
          turnBudget).excerpts.any (fun excerpt => excerpt.sourceRecordId = "turn_1" ∧
            excerpt.redacted = false ∧ excerpt.excerpt ≠ []) = true := by
    decide
  obtain ⟨hmarked, hany⟩ := hshown again (by simp [run, hcaptured, hforgotten, hagain])
  obtain ⟨excerpt, hexcerpt, hreturned⟩ := List.any_eq_true.mp hany
  exact hhidden "turn_1" hmarked
    ⟨speakerQuery "ada", turnBudget, excerpt, hexcerpt, of_decide_eq_true hreturned⟩

end AgentBigBrain.Core
