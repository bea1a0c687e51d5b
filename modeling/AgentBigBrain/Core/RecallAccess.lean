import AgentBigBrain.Core.SourceRecall
import AgentBigBrain.Lib.Views

/-!
# Access to Source Recall

What a retrieval returns comes from active chunks of active records that the query and the
principal match, stays within its budget, and shows nothing of a sensitive record. Records that the
principal may not see leave no trace in it, unless one of them shares its id with a record that the
principal may see.
-/
namespace AgentBigBrain.Core

open AgentBigBrain.Js

variable {platform : Platform} {hostSort : HostSort} {document : SourceRecallDocument}
  {query : SourceRecallRetrievalQuery} {budget : NormalizedOutputBudget}

/-! ## Where an excerpt comes from -/

/-- A record that the retrieval may use. -/
structure RecordMatches (record : SourceRecallRecord) (query : SourceRecallRetrievalQuery)
    (budget : NormalizedOutputBudget) : Prop where
  scope : ∀ scopeId ∈ asked query.scopeId, record.scopeId = scopeId
  thread : ∀ threadId ∈ asked query.threadId, record.threadId = threadId
  recordId : ∀ sourceRecordId ∈ asked query.sourceRecordId, record.sourceRecordId = sourceRecordId
  kinds : ∀ kinds ∈ query.sourceKinds, record.sourceKind ∈ kinds
  kindAllowed : record.sourceKind ∈ budget.sourceKindAllowlist
  roles : ∀ roles ∈ query.sourceRoles, record.sourceRole ∈ roles
  roleAllowed : record.sourceRole ∈ budget.sourceRoleAllowlist
  principal : matchesPrincipalAccess record query.principalAccess = true

lemma matchesRecordQuery_iff {record : SourceRecallRecord} :
    matchesRecordQuery record query budget = true ↔ RecordMatches record query budget := by
  have hall : ∀ (value : Option String) (text : String),
      value.all (text = ·) = true ↔ ∀ other ∈ value, text = other := by
    intro value text
    cases value <;> simp
  have hmem : ∀ {κ : Type} [DecidableEq κ] (value : Option (List κ)) (x : κ),
      value.all (x ∈ ·) = true ↔ ∀ xs ∈ value, x ∈ xs := by
    intro κ _ value x
    cases value <;> simp
  simp only [matchesRecordQuery, Bool.and_eq_true, hall, hmem, decide_eq_true_eq]
  constructor
  · rintro ⟨⟨⟨⟨⟨⟨⟨h₁, h₂⟩, h₃⟩, h₄⟩, h₅⟩, h₆⟩, h₇⟩, h₈⟩
    exact ⟨h₁, h₂, h₃, h₄, h₅, h₆, h₇, h₈⟩
  · rintro ⟨h₁, h₂, h₃, h₄, h₅, h₆, h₇, h₈⟩
    exact ⟨⟨⟨⟨⟨⟨⟨h₁, h₂⟩, h₃⟩, h₄⟩, h₅⟩, h₆⟩, h₇⟩, h₈⟩

/-- The chunk and its record, both active, match the query. -/
structure ActiveMatch (document : SourceRecallDocument) (query : SourceRecallRetrievalQuery)
    (budget : NormalizedOutputBudget) (record : SourceRecallRecord) (chunk : SourceRecallChunk) :
    Prop where
  chunk_mem : chunk ∈ document.chunks
  record_mem : record ∈ document.records
  record_of : recordById document.records chunk.sourceRecordId = some record
  record_active : record.lifecycleState = .active
  chunk_active : chunk.lifecycleState = .active
  recordMatches : RecordMatches record query budget
  chunkId : ∀ chunkId ∈ asked query.chunkId, chunk.chunkId = chunkId

/-- The excerpt shows a part of the chunk's text, and of a sensitive record only the fixed text. -/
structure ExcerptOf (record : SourceRecallRecord) (chunk : SourceRecallChunk)
    (excerpt : SourceRecallExcerpt) : Prop where
  recordId : excerpt.sourceRecordId = record.sourceRecordId
  chunkId : excerpt.chunkId = chunk.chunkId
  metadata : excerpt.principalMetadata = record.principalMetadata
  redacted : excerpt.redacted = record.sensitive
  sensitive : record.sensitive = true → excerpt.excerpt <+: redactedExcerpt
  text : record.sensitive = false → excerpt.excerpt <:+: codeUnits chunk.text

lemma recordById_mem {records : List SourceRecallRecord} {id : String}
    {record : SourceRecallRecord} (h : recordById records id = some record) :
    record ∈ records ∧ record.sourceRecordId = id := by
  refine ⟨List.mem_reverse.mp (List.mem_of_find?_eq_some h), ?_⟩
  simpa using List.find?_some h

/-- What the loop over the chunks asks of one, once its record is found. -/
def admitted (query : SourceRecallRetrievalQuery) (budget : NormalizedOutputBudget)
    (record : SourceRecallRecord) (chunk : SourceRecallChunk) : Bool :=
  isRecordAndChunkVisible record chunk && matchesRecordQuery record query budget &&
    (asked query.chunkId).all (chunk.chunkId = ·) &&
    (asked query.exactQuote).all fun quote =>
      (indexOfUnits (codeUnits quote) (codeUnits chunk.text)).isSome

variable (platform) in
lemma toCandidate_judgeChunk (records : List SourceRecallRecord) (chunk : SourceRecallChunk) :
    (judgeChunk platform records query budget chunk).toCandidate =
      (recordById records chunk.sourceRecordId).bind fun record =>
        if admitted query budget record chunk then
          (scoreCandidate platform record chunk query).map fun ranking =>
            { record := record, chunk := chunk, ranking := ranking }
        else none := by
  unfold judgeChunk admitted
  cases recordById records chunk.sourceRecordId with
  | none => rfl
  | some record =>
      simp only [Option.bind_some]
      split_ifs with hvisible hmatches hchunk hquote hall hall hall hall
      all_goals first
        | rfl
        | (simp_all; done)
        | (cases scoreCandidate platform record chunk query <;> rfl)

lemma activeMatch_of_candidate {candidate : CandidateChunk}
    (h : candidate ∈ candidateChunks platform document query budget) :
    ActiveMatch document query budget candidate.record candidate.chunk := by
  obtain ⟨chunk, hchunk, hcandidate⟩ := List.mem_filterMap.mp h
  rw [toCandidate_judgeChunk] at hcandidate
  obtain ⟨record, hrecord, hrest⟩ := Option.bind_eq_some_iff.mp hcandidate
  split_ifs at hrest with hadmitted
  obtain ⟨ranking, -, rfl⟩ := Option.map_eq_some_iff.mp hrest
  simp only [admitted, isRecordAndChunkVisible, isSourceRecallLifecycleVisible, Bool.and_eq_true,
    decide_eq_true_eq] at hadmitted
  obtain ⟨⟨⟨⟨hrecordActive, hchunkActive⟩, hmatches⟩, hchunkId⟩, -⟩ := hadmitted
  refine ⟨hchunk, (recordById_mem hrecord).1, hrecord, hrecordActive, hchunkActive,
    matchesRecordQuery_iff.mp hmatches, ?_⟩
  cases hasked : asked query.chunkId with
  | none => simp
  | some chunkId => simpa [hasked] using hchunkId

/-! ## The loop over the candidates -/

/-- An excerpt of the candidate that was cut to what was left of the budget. -/
def CutFrom (query : SourceRecallRetrievalQuery) (budget : NormalizedOutputBudget)
    (candidate : CandidateChunk) (excerpt : SourceRecallExcerpt) : Prop :=
  ∃ left, excerpt =
    { buildBudgetedExcerpt candidate query.exactQuote budget with
      excerpt := (buildBudgetedExcerpt candidate query.exactQuote budget).excerpt.take left }

/-- What the loop keeps, over the candidates it was given. -/
structure WithinBudget (query : SourceRecallRetrievalQuery) (budget : NormalizedOutputBudget)
    (candidates : List CandidateChunk) (progress : RecallProgress) : Prop where
  records : progress.includedRecordIds.length ≤ budget.maxRecords
  included : ∀ excerpt ∈ progress.excerpts, excerpt.sourceRecordId ∈ progress.includedRecordIds
  chunks : progress.excerpts.length ≤ budget.maxChunks
  total : progress.totalCharsReturned = (progress.excerpts.map (·.excerpt.length)).sum
  chars : progress.totalCharsReturned ≤ budget.maxTotalExcerptChars
  source : ∀ excerpt ∈ progress.excerpts, ∃ candidate ∈ candidates,
    CutFrom query budget candidate excerpt

variable {candidates : List CandidateChunk} {progress : RecallProgress}

lemma WithinBudget.block (h : WithinBudget query budget candidates progress) :
    WithinBudget query budget candidates progress.block :=
  ⟨h.records, h.included, h.chunks, h.total, h.chars, h.source⟩

@[simp] lemma sourceRecordId_buildBudgetedExcerpt (candidate : CandidateChunk)
    (exactQuote : Option String) (budget : NormalizedOutputBudget) :
    (buildBudgetedExcerpt candidate exactQuote budget).sourceRecordId =
      candidate.record.sourceRecordId := by
  unfold buildBudgetedExcerpt
  dsimp only
  split_ifs <;> rfl

lemma WithinBudget.takeExcerpt (h : WithinBudget query budget candidates progress)
    {candidate : CandidateChunk} (hcandidate : candidate ∈ candidates)
    (hincluded : candidate.record.sourceRecordId ∈ progress.includedRecordIds) :
    WithinBudget query budget candidates (takeExcerpt query budget progress candidate) := by
  unfold AgentBigBrain.Core.takeExcerpt
  dsimp only
  split_ifs with hchunks hexcluded hleft
  · exact h.block
  · exact h.block
  · exact h.block
  · have hroom : progress.excerpts.length < budget.maxChunks := by omega
    have hshort : ((buildBudgetedExcerpt candidate query.exactQuote budget).excerpt.take
        (budget.maxTotalExcerptChars - progress.totalCharsReturned)).length ≤
          budget.maxTotalExcerptChars - progress.totalCharsReturned := List.length_take_le _ _
    have hchars := h.chars
    refine ⟨h.records, ?_, ?_, ?_, ?_, ?_⟩
    · intro excerpt hexcerpt
      rcases List.mem_append.mp hexcerpt with hold | hnew
      · exact h.included excerpt hold
      · obtain rfl := List.mem_singleton.mp hnew
        simpa using hincluded
    · simp only [List.length_append, List.length_singleton]
      omega
    · simp [h.total]
    · calc progress.totalCharsReturned + _
          ≤ progress.totalCharsReturned +
              (budget.maxTotalExcerptChars - progress.totalCharsReturned) :=
            Nat.add_le_add_left hshort _
        _ ≤ budget.maxTotalExcerptChars := by omega
    · intro excerpt hexcerpt
      rcases List.mem_append.mp hexcerpt with hold | hnew
      · exact h.source excerpt hold
      · obtain rfl := List.mem_singleton.mp hnew
        exact ⟨candidate, hcandidate, _, rfl⟩

lemma WithinBudget.takeCandidate (h : WithinBudget query budget candidates progress)
    {candidate : CandidateChunk} (hcandidate : candidate ∈ candidates) :
    WithinBudget query budget candidates (takeCandidate query budget progress candidate) := by
  unfold AgentBigBrain.Core.takeCandidate
  split_ifs with hincluded hfull
  · exact h.takeExcerpt hcandidate hincluded
  · exact h.block
  · have hadded : WithinBudget query budget candidates
        { progress with
          includedRecordIds :=
            progress.includedRecordIds ++ [candidate.record.sourceRecordId] } := by
      refine ⟨?_, fun excerpt hexcerpt => ?_, h.chunks, h.total, h.chars, h.source⟩
      · simp only [List.length_append, List.length_singleton]
        omega
      · exact List.mem_append_left _ (h.included excerpt hexcerpt)
    exact hadded.takeExcerpt hcandidate (by simp)

/-- The loop stays within the budget, whatever candidates it is given. -/
theorem withinBudget_foldl (given : List CandidateChunk) (hgiven : ∀ c ∈ given, c ∈ candidates)
    (h : WithinBudget query budget candidates progress) :
    WithinBudget query budget candidates (given.foldl (takeCandidate query budget) progress) := by
  induction given generalizing progress with
  | nil => exact h
  | cons candidate given ih =>
      have hnext := h.takeCandidate (hgiven candidate List.mem_cons_self)
      exact ih (fun other hother => hgiven other (List.mem_cons_of_mem _ hother)) hnext

/-! ## One retrieval -/

lemma excerptOf_buildBudgetedExcerpt (candidate : CandidateChunk) (exactQuote : Option String)
    (budget : NormalizedOutputBudget) :
    ExcerptOf candidate.record candidate.chunk
        (buildBudgetedExcerpt candidate exactQuote budget) ∧
      (buildBudgetedExcerpt candidate exactQuote budget).excerpt.length ≤
        budget.maxExcerptCharsPerChunk := by
  unfold buildBudgetedExcerpt
  dsimp only
  by_cases hsensitive : candidate.record.sensitive = true
  · rw [if_pos hsensitive]
    refine ⟨⟨rfl, rfl, rfl, hsensitive.symm, fun _ => List.take_prefix _ _, fun h => ?_⟩,
      List.length_take_le _ _⟩
    simp [hsensitive] at h
  · rw [if_neg hsensitive]
    refine ⟨⟨rfl, rfl, rfl, (Bool.eq_false_of_not_eq_true hsensitive).symm,
      fun h => absurd h hsensitive, fun _ => ?_⟩, List.length_take_le _ _⟩
    exact (List.take_prefix _ _).isInfix.trans (List.drop_suffix _ _).isInfix

lemma CutFrom.excerptOf {candidate : CandidateChunk} {excerpt : SourceRecallExcerpt}
    {budget : NormalizedOutputBudget} (h : CutFrom query budget candidate excerpt) :
    ExcerptOf candidate.record candidate.chunk excerpt ∧
      excerpt.excerpt.length ≤ budget.maxExcerptCharsPerChunk := by
  obtain ⟨left, rfl⟩ := h
  obtain ⟨hwhole, hlength⟩ :=
    excerptOf_buildBudgetedExcerpt candidate query.exactQuote budget
  refine ⟨⟨hwhole.recordId, hwhole.chunkId, hwhole.metadata, hwhole.redacted, fun h => ?_,
    fun h => ?_⟩, (List.length_take_le' _ _).trans hlength⟩
  · exact (List.take_prefix _ _).trans (hwhole.sensitive h)
  · exact (List.take_prefix _ _).isInfix.trans (hwhole.text h)

lemma withinBudget_start (query : SourceRecallRetrievalQuery) (budget : NormalizedOutputBudget)
    (candidates : List CandidateChunk) (blocked : ℕ) :
    WithinBudget query budget candidates ⟨[], [], 0, blocked⟩ :=
  ⟨Nat.zero_le _, by simp, Nat.zero_le _, rfl, Nat.zero_le _, by simp⟩

variable (platform hostSort document query) in
/-- What a retrieval has kept when it is over. -/
lemma withinBudget_retrieval (budget : SourceRecallOutputBudget) :
    ∃ progress, (retrieveSourceRecall platform hostSort document query budget).excerpts =
        progress.excerpts ∧
      WithinBudget query (normalizeSourceRecallOutputBudget budget)
        (candidateChunks platform document query (normalizeSourceRecallOutputBudget budget))
        progress := by
  refine ⟨_, rfl, withinBudget_foldl _ (fun candidate hcandidate => ?_)
    (withinBudget_start _ _ _ _)⟩
  exact hostSort.mem_sort.mp hcandidate

/-- What holds of one retrieval. -/
structure SoundRetrieval (document : SourceRecallDocument) (query : SourceRecallRetrievalQuery)
    (budget : SourceRecallOutputBudget) (excerpts : List SourceRecallExcerpt) : Prop where
  fromActive : ∀ excerpt ∈ excerpts, ∃ record chunk,
    ActiveMatch document query (normalizeSourceRecallOutputBudget budget) record chunk ∧
      ExcerptOf record chunk excerpt
  needsEnvelope : (∀ access ∈ query.principalAccess, access.allowsSourceRecall = false) →
    excerpts = []
  onPublicRoute : ∀ access ∈ query.principalAccess, access.onPublicRoute = true →
    ∀ excerpt ∈ excerpts, ∃ metadata ∈ excerpt.principalMetadata,
      metadata.label .routeVisibility = some "public" ∨
        metadata.label .accessClass = some "shared_public"
  ownOnly : ∀ access ∈ query.principalAccess, access.onPublicRoute = false →
    access.isOwnerOrOperator = false → ∀ excerpt ∈ excerpts, ∃ hash,
      access.actorHash = some hash ∧ ∃ metadata ∈ excerpt.principalMetadata,
        metadata.label .actorProviderUserIdHash = some hash
  recordBudget : (uniqueValues (excerpts.map (·.sourceRecordId))).length ≤
    (normalizeSourceRecallOutputBudget budget).maxRecords
  chunkBudget : excerpts.length ≤ (normalizeSourceRecallOutputBudget budget).maxChunks
  perChunkBudget : ∀ excerpt ∈ excerpts, excerpt.excerpt.length ≤
    (normalizeSourceRecallOutputBudget budget).maxExcerptCharsPerChunk
  totalBudget : (excerpts.map (·.excerpt.length)).sum ≤
    (normalizeSourceRecallOutputBudget budget).maxTotalExcerptChars

lemma carriesHash_iff {access : TaskPrincipalAccessEnvelope}
    {metadata : SourceRecallPrincipalMetadata} (h : carriesHash access metadata = true) :
    ∃ hash, access.actorHash = some hash ∧
      metadata.label .actorProviderUserIdHash = some hash := by
  unfold carriesHash at h
  split at h
  · rename_i actorHash recordHash hactor hrecord
    simp only [Bool.and_eq_true, beq_iff_eq] at h
    exact ⟨actorHash, hactor, hrecord.trans (by rw [h.2])⟩
  · simp at h

lemma allows_of_matchesPrincipalAccess {record : SourceRecallRecord}
    {principalAccess : Option TaskPrincipalAccessEnvelope}
    (h : matchesPrincipalAccess record principalAccess = true) :
    ∃ access ∈ principalAccess, access.allowsSourceRecall = true := by
  cases principalAccess with
  | none => simp [matchesPrincipalAccess] at h
  | some access =>
      refine ⟨access, rfl, ?_⟩
      by_contra hrefused
      simp [matchesPrincipalAccess, hrefused] at h

lemma public_of_matchesPrincipalAccess {record : SourceRecallRecord}
    {access : TaskPrincipalAccessEnvelope}
    (h : matchesPrincipalAccess record (some access) = true)
    (hpublic : access.onPublicRoute = true) :
    ∃ metadata ∈ record.principalMetadata, metadata.label .routeVisibility = some "public" ∨
      metadata.label .accessClass = some "shared_public" := by
  unfold matchesPrincipalAccess at h
  cases hmetadata : record.principalMetadata with
  | none => simp [hmetadata, hpublic] at h
  | some metadata =>
      have hshared : access.allowsSourceRecall = true ∧
          (metadata.label .routeVisibility = some "public" ∨
            metadata.label .accessClass = some "shared_public") := by
        simpa [hmetadata, hpublic] using h
      exact ⟨metadata, rfl, hshared.2⟩

lemma own_of_matchesPrincipalAccess {record : SourceRecallRecord}
    {access : TaskPrincipalAccessEnvelope}
    (h : matchesPrincipalAccess record (some access) = true)
    (hpublic : access.onPublicRoute = false) (hrole : access.isOwnerOrOperator = false) :
    ∃ hash, access.actorHash = some hash ∧ ∃ metadata ∈ record.principalMetadata,
      metadata.label .actorProviderUserIdHash = some hash := by
  unfold matchesPrincipalAccess at h
  cases hmetadata : record.principalMetadata with
  | none => simp [hmetadata, hrole] at h
  | some metadata =>
      have hcarries : access.allowsSourceRecall = true ∧ carriesHash access metadata = true := by
        simpa [hmetadata, hpublic, hrole] using h
      obtain ⟨hash, hactor, hrecord⟩ := carriesHash_iff hcarries.2
      exact ⟨hash, hactor, metadata, rfl, hrecord⟩

lemma WithinBudget.sound {budget : SourceRecallOutputBudget}
    (h : WithinBudget query (normalizeSourceRecallOutputBudget budget)
      (candidateChunks platform document query (normalizeSourceRecallOutputBudget budget))
      progress) : SoundRetrieval document query budget progress.excerpts := by
  have hsource : ∀ excerpt ∈ progress.excerpts, ∃ record chunk,
      ActiveMatch document query (normalizeSourceRecallOutputBudget budget) record chunk ∧
        ExcerptOf record chunk excerpt := by
    intro excerpt hexcerpt
    obtain ⟨candidate, hcandidate, hcut⟩ := h.source excerpt hexcerpt
    exact ⟨_, _, activeMatch_of_candidate hcandidate, hcut.excerptOf.1⟩
  have hprincipal : ∀ excerpt ∈ progress.excerpts, ∃ record : SourceRecallRecord,
      excerpt.principalMetadata = record.principalMetadata ∧
        matchesPrincipalAccess record query.principalAccess = true := by
    intro excerpt hexcerpt
    obtain ⟨record, chunk, hmatch, hof⟩ := hsource excerpt hexcerpt
    exact ⟨record, hof.metadata, hmatch.recordMatches.principal⟩
  refine ⟨hsource, fun hrefused => ?_, fun access haccess hpublic excerpt hexcerpt => ?_,
    fun access haccess hroute hrole excerpt hexcerpt => ?_, ?_, h.chunks,
    fun excerpt hexcerpt => ?_, h.total ▸ h.chars⟩
  · refine List.eq_nil_iff_forall_not_mem.mpr fun excerpt hexcerpt => ?_
    obtain ⟨record, -, hmatches⟩ := hprincipal excerpt hexcerpt
    obtain ⟨access, haccess, hallows⟩ := allows_of_matchesPrincipalAccess hmatches
    simp [hrefused access haccess] at hallows
  · obtain ⟨record, hmetadata, hmatches⟩ := hprincipal excerpt hexcerpt
    rw [Option.mem_def.mp haccess] at hmatches
    simpa [hmetadata] using public_of_matchesPrincipalAccess hmatches hpublic
  · obtain ⟨record, hmetadata, hmatches⟩ := hprincipal excerpt hexcerpt
    rw [Option.mem_def.mp haccess] at hmatches
    simpa [hmetadata] using own_of_matchesPrincipalAccess hmatches hroute hrole
  · have hsubset : uniqueValues (progress.excerpts.map (·.sourceRecordId)) ⊆
        progress.includedRecordIds := by
      intro id hid
      obtain ⟨excerpt, hexcerpt, rfl⟩ := List.mem_map.mp (mem_uniqueValues.mp hid)
      exact h.included excerpt hexcerpt
    exact ((nodup_uniqueValues _).subperm hsubset).length_le.trans h.records
  · obtain ⟨candidate, -, hcut⟩ := h.source excerpt hexcerpt
    exact hcut.excerptOf.2

/-! ## What the principal does not see -/

/-- The record is active, and the principal may see it. -/
def visibleTo (query : SourceRecallRetrievalQuery) (record : SourceRecallRecord) : Bool :=
  isSourceRecallLifecycleVisible record.lifecycleState &&
    matchesPrincipalAccess record query.principalAccess

def visibleRecords (document : SourceRecallDocument) (query : SourceRecallRetrievalQuery) :
    List SourceRecallRecord :=
  document.records.filter (visibleTo query)

/-- The chunks of the visible records. -/
def visibleChunks (document : SourceRecallDocument) (query : SourceRecallRetrievalQuery) :
    List SourceRecallChunk :=
  document.chunks.filter fun chunk =>
    (visibleRecords document query).any (·.sourceRecordId = chunk.sourceRecordId)

/-- The two documents differ only in what the principal does not see. -/
structure SameVisible (document other : SourceRecallDocument)
    (query : SourceRecallRetrievalQuery) : Prop where
  records : visibleRecords document query = visibleRecords other query
  chunks : visibleChunks document query = visibleChunks other query

/-- No record that the principal does not see has the id of one that the principal sees. -/
def UnshadowedRecords (document : SourceRecallDocument) (query : SourceRecallRetrievalQuery) :
    Prop :=
  Lib.Unshadowed (visibleTo query) (·.sourceRecordId) document.records

lemma visibleTo_of_admitted {budget : NormalizedOutputBudget} {record : SourceRecallRecord}
    {chunk : SourceRecallChunk} (h : admitted query budget record chunk = true) :
    visibleTo query record = true := by
  simp only [admitted, isRecordAndChunkVisible, Bool.and_eq_true] at h
  obtain ⟨⟨⟨⟨hactive, -⟩, hmatches⟩, -⟩, -⟩ := h
  simp [visibleTo, hactive, (matchesRecordQuery_iff.mp hmatches).principal]

/-- An id that some visible record has finds a visible record. -/
lemma recordById_visible (hunshadowed : UnshadowedRecords document query) {id : String}
    (hid : (visibleRecords document query).any (·.sourceRecordId = id) = true) :
    recordById document.records id = recordById (visibleRecords document query) id := by
  obtain ⟨record, hrecord, hrecordId⟩ := List.any_eq_true.mp hid
  obtain ⟨hmem, hseen⟩ := List.mem_filter.mp hrecord
  obtain rfl := of_decide_eq_true hrecordId
  exact hunshadowed.find?_reverse hmem hseen

variable (platform) in
/-- A chunk becomes a candidate by what the principal sees alone. -/
lemma toCandidate_visible (hunshadowed : UnshadowedRecords document query)
    (budget : NormalizedOutputBudget) (chunk : SourceRecallChunk) :
    (judgeChunk platform document.records query budget chunk).toCandidate =
      if (visibleRecords document query).any (·.sourceRecordId = chunk.sourceRecordId) then
        (judgeChunk platform (visibleRecords document query) query budget chunk).toCandidate
      else none := by
  rw [toCandidate_judgeChunk, toCandidate_judgeChunk]
  split_ifs with hseen
  · rw [recordById_visible hunshadowed hseen]
  · refine Option.bind_eq_none_iff.mpr fun record hrecord => ?_
    rw [if_neg]
    intro hadmitted
    obtain ⟨hmem, hid⟩ := recordById_mem hrecord
    refine hseen (List.any_eq_true.mpr ⟨record, ?_, decide_eq_true hid⟩)
    exact List.mem_filter.mpr ⟨hmem, visibleTo_of_admitted hadmitted⟩

variable (platform) in
lemma candidateChunks_visible (hunshadowed : UnshadowedRecords document query)
    (budget : NormalizedOutputBudget) :
    candidateChunks platform document query budget =
      (visibleChunks document query).filterMap fun chunk =>
        (judgeChunk platform (visibleRecords document query) query budget chunk).toCandidate := by
  unfold candidateChunks visibleChunks
  rw [List.filterMap_filter]
  exact List.filterMap_congr fun chunk _ => toCandidate_visible platform hunshadowed budget chunk

/-- The two have come equally far, whatever they have counted as blocked. -/
structure AgreesBut (left right : RecallProgress) : Prop where
  included : left.includedRecordIds = right.includedRecordIds
  excerpts : left.excerpts = right.excerpts
  total : left.totalCharsReturned = right.totalCharsReturned

lemma AgreesBut.takeExcerpt {left right : RecallProgress} (h : AgreesBut left right)
    (budget : NormalizedOutputBudget) (candidate : CandidateChunk) :
    AgreesBut (takeExcerpt query budget left candidate)
      (takeExcerpt query budget right candidate) := by
  obtain ⟨hincluded, hexcerpts, htotal⟩ := h
  unfold AgentBigBrain.Core.takeExcerpt
  rw [hexcerpts, htotal]
  dsimp only
  split_ifs
  · exact ⟨hincluded, hexcerpts, htotal⟩
  · exact ⟨hincluded, hexcerpts, htotal⟩
  · exact ⟨hincluded, hexcerpts, htotal⟩
  · exact ⟨hincluded, rfl, rfl⟩

lemma AgreesBut.takeCandidate {left right : RecallProgress} (h : AgreesBut left right)
    (budget : NormalizedOutputBudget) (candidate : CandidateChunk) :
    AgreesBut (takeCandidate query budget left candidate)
      (takeCandidate query budget right candidate) := by
  unfold AgentBigBrain.Core.takeCandidate
  rw [h.included]
  split_ifs
  · exact h.takeExcerpt budget candidate
  · exact ⟨h.included, h.excerpts, h.total⟩
  · have hadded : AgreesBut
        { left with
          includedRecordIds :=
            right.includedRecordIds ++ [candidate.record.sourceRecordId] }
        { right with
          includedRecordIds :=
            right.includedRecordIds ++ [candidate.record.sourceRecordId] } :=
      ⟨rfl, h.excerpts, h.total⟩
    exact hadded.takeExcerpt budget candidate

lemma AgreesBut.foldl {left right : RecallProgress} (h : AgreesBut left right)
    (budget : NormalizedOutputBudget) (candidates : List CandidateChunk) :
    AgreesBut (candidates.foldl (AgentBigBrain.Core.takeCandidate query budget) left)
      (candidates.foldl (AgentBigBrain.Core.takeCandidate query budget) right) := by
  induction candidates generalizing left right with
  | nil => exact h
  | cons candidate candidates ih => exact ih (h.takeCandidate budget candidate)

/-- Every retrieval is sound, and what the principal does not see leaves no trace in it, unless it
hides behind the id of a visible record. -/
theorem source_recall_access_sound (platform : Platform) (hostSort : HostSort)
    (document : SourceRecallDocument) (query : SourceRecallRetrievalQuery)
    (budget : SourceRecallOutputBudget) :
    SoundRetrieval document query budget
        (retrieveSourceRecall platform hostSort document query budget).excerpts ∧
      ∀ other, SameVisible document other query → UnshadowedRecords document query →
        UnshadowedRecords other query →
        (retrieveSourceRecall platform hostSort document query budget).excerpts =
          (retrieveSourceRecall platform hostSort other query budget).excerpts := by
  constructor
  · obtain ⟨progress, hexcerpts, hwithin⟩ :=
      withinBudget_retrieval platform hostSort document query budget
    rw [hexcerpts]
    exact hwithin.sound
  · intro other hsame hdocument hother
    have hcandidates : candidateChunks platform document query
        (normalizeSourceRecallOutputBudget budget) =
          candidateChunks platform other query (normalizeSourceRecallOutputBudget budget) := by
      rw [candidateChunks_visible platform hdocument, candidateChunks_visible platform hother,
        hsame.records, hsame.chunks]
    have hstart : ∀ blocked blocked' : ℕ,
        AgreesBut ⟨[], [], 0, blocked⟩ ⟨[], [], 0, blocked'⟩ := fun _ _ => ⟨rfl, rfl, rfl⟩
    simp only [retrieveSourceRecall, hcandidates]
    exact ((hstart _ _).foldl _ _).excerpts

/-! ## A document with a hidden record -/

def recallPlatform : Platform := .ofDates []

/-- A record of a conversation turn that carries the hash of its speaker. -/
def turnRecord (id speakerHash : String) (lifecycleState : SourceRecallLifecycleState) :
    SourceRecallRecord where
  sourceRecordId := id
  scopeId := "scope"
  threadId := "thread"
  sourceKind := .conversationTurn
  sourceRole := .user
  sourceAuthority := "explicit_user_statement"
  captureClass := .ordinarySource
  lifecycleState := lifecycleState
  originRef := { surface := "conversation", refId := "turn", parentRefId := some "upload" }
  sourceRecordHash := "hash"
  observedAt := "2026-01-01T00:00:00.000Z"
  capturedAt := "2026-01-01T00:00:00.000Z"
  sourceTimeKind := .capturedRecord
  freshness := .recent
  sensitive := false
  principalMetadata := some
    { label := fun name => if name = .actorProviderUserIdHash then some speakerHash else none
      accessAllowed := none }

def turnChunk (id recordId text : String) : SourceRecallChunk where
  chunkId := id
  sourceRecordId := recordId
  chunkIndex := 0
  text := text
  chunkHash := "hash"
  lifecycleState := .active

/-- The principal with the given hash, in a private conversation. -/
def speakerAccess (speakerHash : String) : TaskPrincipalAccessEnvelope where
  actor := some
    (.obj [("principalRole", .str "allowed_user"), ("providerUserIdHash", .str speakerHash)])
  route := some (.obj [("visibility", .str "private")])
  accessDecision :=
    { decisionId := "decision", requestId := "request", operation := "source_recall_retrieve",
      accessClass := "speaker_private", allowed := true, reason := "own" }

def speakerQuery (speakerHash : String) : SourceRecallRetrievalQuery where
  scopeId := none
  threadId := none
  sourceRecordId := none
  chunkId := none
  exactQuote := none
  sourceKinds := none
  sourceRoles := none
  keywords := none
  semanticVectorChunkIds := none
  principalAccess := some (speakerAccess speakerHash)

def turnBudget : SourceRecallOutputBudget where
  maxRecords := 4
  maxChunks := 6
  maxExcerptCharsPerChunk := 100
  maxTotalExcerptChars := 400
  sourceKindAllowlist := [.conversationTurn]
  sourceRoleAllowlist := [.user]
  sensitivityRedactionPolicy := .redactSensitive

/-- One turn of Ada. -/
def adaDocument : SourceRecallDocument where
  records := [turnRecord "turn_1" "ada" .active]
  chunks := [turnChunk "chunk_1" "turn_1" "the gate code is 4711"]

/-- The turn of Ada, and one of Bob. -/
def adaAndBobDocument : SourceRecallDocument where
  records := [turnRecord "turn_1" "ada" .active, turnRecord "turn_2" "bob" .active]
  chunks := [turnChunk "chunk_1" "turn_1" "the gate code is 4711",
    turnChunk "chunk_2" "turn_2" "see you at noon"]

theorem bob_leaves_no_trace :
    SoundRetrieval adaDocument (speakerQuery "ada") turnBudget
        (retrieveSourceRecall recallPlatform .insertion adaDocument (speakerQuery "ada")
          turnBudget).excerpts ∧
      (retrieveSourceRecall recallPlatform .insertion adaDocument (speakerQuery "ada")
          turnBudget).excerpts =
        (retrieveSourceRecall recallPlatform .insertion adaAndBobDocument (speakerQuery "ada")
          turnBudget).excerpts := by
  obtain ⟨hsound, hsame⟩ := source_recall_access_sound recallPlatform .insertion adaDocument
    (speakerQuery "ada") turnBudget
  have hbob : visibleTo (speakerQuery "ada") (turnRecord "turn_2" "bob" .active) = false := by
    decide
  have hada : visibleTo (speakerQuery "ada") (turnRecord "turn_1" "ada" .active) = true := by
    decide
  have hseen : visibleRecords adaDocument (speakerQuery "ada") =
      [turnRecord "turn_1" "ada" .active] := by
    simp only [visibleRecords, adaDocument, List.filter_cons, hada, List.filter_nil, if_true]
  have hseenToo : visibleRecords adaAndBobDocument (speakerQuery "ada") =
      [turnRecord "turn_1" "ada" .active] := by
    simp only [visibleRecords, adaAndBobDocument, List.filter_cons, hada, hbob, List.filter_nil,
      if_true, Bool.false_eq_true, if_false]
  refine ⟨hsound, hsame adaAndBobDocument ⟨hseen.trans hseenToo.symm, ?_⟩ ?_ ?_⟩
  · simp only [visibleChunks, hseen, hseenToo]
    rfl
  · intro hidden hmem hhidden
    obtain rfl := List.mem_singleton.mp hmem
    simp [hada] at hhidden
  · intro hidden hmem hhidden record hrecord hrecordSeen
    have hmemSeen : record ∈ visibleRecords adaAndBobDocument (speakerQuery "ada") :=
      List.mem_filter.mpr ⟨hrecord, hrecordSeen⟩
    rw [hseenToo] at hmemSeen
    obtain rfl := List.mem_singleton.mp hmemSeen
    have hcases : hidden = turnRecord "turn_1" "ada" .active ∨
        hidden = turnRecord "turn_2" "bob" .active := by
      simpa [adaAndBobDocument] using hmem
    obtain rfl | rfl := hcases
    · simp [hada] at hhidden
    · decide

/-- A record of Bob with the id of Ada's hides her turn from her. -/
theorem shadowing_record_hides_excerpt :
    ¬ ∀ document hidden, visibleTo (speakerQuery "ada") hidden = false →
      (retrieveSourceRecall recallPlatform .insertion
          { document with records := document.records ++ [hidden] } (speakerQuery "ada")
          turnBudget).excerpts =
        (retrieveSourceRecall recallPlatform .insertion document (speakerQuery "ada")
          turnBudget).excerpts := by
  intro h
  have hlengths := congrArg List.length
    (h adaDocument (turnRecord "turn_1" "bob" .active) (by decide))
  revert hlengths
  decide

end AgentBigBrain.Core
