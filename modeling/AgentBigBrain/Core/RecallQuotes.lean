import AgentBigBrain.Core.RecallFairness
import AgentBigBrain.Core.Sha256
import AgentBigBrain.Js.Utf16
import AgentBigBrain.Lib.Windows

/-!
# Quotes of captured texts

A captured text is cut into overlapping chunks, and a quote is looked for in each of them. The
excerpt stands around the quote, but what is left of the total budget cuts it from behind.
-/
namespace AgentBigBrain.Core

open AgentBigBrain.Js AgentBigBrain.Lib

/-! ## Chunks -/

def liveUserTurnMaxChunkChars : ℕ := 2000

def liveUserTurnChunkOverlapChars : ℕ := 200

def liveUserTurnMaxChunks : ℕ := 128

/-- The loop from an offset, with so many chunks still allowed. -/
def chunksFrom (text : List ℕ) (offset : ℕ) : ℕ → List (List ℕ)
  | 0 => []
  | allowed + 1 =>
      if offset < text.length then
        let next := (text.drop offset).take liveUserTurnMaxChunkChars
        if text.length ≤ offset + liveUserTurnMaxChunkChars then [next]
        else
          next :: chunksFrom text
            (offset + (liveUserTurnMaxChunkChars - liveUserTurnChunkOverlapChars)) allowed
      else []

def chunkLiveUserTurnText (text : List ℕ) : List (List ℕ) :=
  let chunks := chunksFrom text 0 liveUserTurnMaxChunks
  if chunks.length > 0 then chunks else [[]]

/-- What the chunk limit covers. -/
def coveredChars : ℕ :=
  (liveUserTurnMaxChunks - 1) * (liveUserTurnMaxChunkChars - liveUserTurnChunkOverlapChars) +
    liveUserTurnMaxChunkChars

lemma chunksFrom_eq_windows (text : List ℕ) (allowed : ℕ) {offset : ℕ}
    (h : offset < text.length) :
    chunksFrom text offset (allowed + 1) =
      windows liveUserTurnMaxChunkChars
        (liveUserTurnMaxChunkChars - liveUserTurnChunkOverlapChars) allowed (text.drop offset) := by
  induction allowed generalizing offset with
  | zero =>
      rw [chunksFrom, if_pos h]
      dsimp only
      split_ifs <;> rfl
  | succ allowed ih =>
      rw [chunksFrom, if_pos h, windows]
      by_cases hlast : text.length ≤ offset + liveUserTurnMaxChunkChars
      · rw [if_pos hlast, if_pos (by rw [List.length_drop]; omega)]
      · have hnext : offset + (liveUserTurnMaxChunkChars - liveUserTurnChunkOverlapChars) <
            text.length := by
          simp only [liveUserTurnMaxChunkChars, liveUserTurnChunkOverlapChars] at hlast ⊢
          omega
        rw [if_neg hlast, if_neg (by rw [List.length_drop]; omega), ih hnext, List.drop_drop]

/-- The chunks are windows that overlap by the given length. -/
lemma chunkLiveUserTurnText_eq (text : List ℕ) :
    chunkLiveUserTurnText text =
      windows liveUserTurnMaxChunkChars
        (liveUserTurnMaxChunkChars - liveUserTurnChunkOverlapChars) (liveUserTurnMaxChunks - 1)
        text := by
  unfold chunkLiveUserTurnText
  dsimp only
  by_cases hempty : text = []
  · subst hempty
    rfl
  · have hpos : 0 < text.length := List.length_pos_iff.mpr hempty
    have hwindows := chunksFrom_eq_windows text (liveUserTurnMaxChunks - 1) hpos
    rw [List.drop_zero] at hwindows
    have hcount : liveUserTurnMaxChunks - 1 + 1 = liveUserTurnMaxChunks := rfl
    rw [hcount] at hwindows
    obtain ⟨rest, hrest⟩ := @windows_eq_cons _ liveUserTurnMaxChunkChars
      (liveUserTurnMaxChunkChars - liveUserTurnChunkOverlapChars) (liveUserTurnMaxChunks - 1) text
    rw [hwindows, if_pos (by rw [hrest]; exact Nat.succ_pos _)]

/-! ## The place of a quote -/

lemma isSome_indexOfUnits {quote units : List ℕ} :
    (indexOfUnits quote units).isSome = true ↔ quote <:+: units := by
  induction units with
  | nil => by_cases h : quote = [] <;> simp [indexOfUnits, h]
  | cons unit units ih =>
      rw [indexOfUnits, List.infix_cons_iff]
      by_cases h : quote <+: unit :: units
      · simp [h]
      · simp [h, ih]

/-- The index is that of the first place where the quote stands. -/
lemma indexOfUnits_spec {quote units : List ℕ} {index : ℕ}
    (h : indexOfUnits quote units = some index) :
    quote <+: units.drop index ∧ ∀ place, quote <+: units.drop place → index ≤ place := by
  induction units generalizing index with
  | nil =>
      have hindex : index = 0 := by
        unfold indexOfUnits at h
        split_ifs at h
        exact (Option.some.inj h).symm
      subst hindex
      unfold indexOfUnits at h
      split_ifs at h with hquote
      subst hquote
      exact ⟨List.nil_prefix, fun place _ => Nat.zero_le place⟩
  | cons unit units ih =>
      rw [indexOfUnits] at h
      split_ifs at h with hhere
      · obtain rfl := Option.some.inj h
        exact ⟨hhere, fun place _ => Nat.zero_le place⟩
      · obtain ⟨later, hlater, rfl⟩ := Option.map_eq_some_iff.mp h
        obtain ⟨hstands, hfirst⟩ := ih hlater
        refine ⟨hstands, fun place hplace => ?_⟩
        cases place with
        | zero => exact absurd hplace hhere
        | succ place => exact Nat.succ_le_succ (hfirst place hplace)

/-- A cut of the units shows the quote when it reaches behind the first place of it. -/
lemma infix_cut_iff {quote units : List ℕ} {index start left : ℕ}
    (hstands : quote <+: units.drop index)
    (hfirst : ∀ place, quote <+: units.drop place → index ≤ place) (hstart : start ≤ index) :
    quote <:+: (units.drop start).take left ↔ index - start + quote.length ≤ left := by
  constructor
  · rintro ⟨before, after, hcut⟩
    have hleads : before ++ quote <+: units.drop start := by
      refine List.IsPrefix.trans ?_ (List.take_prefix left _)
      rw [← hcut]
      exact List.prefix_append _ _
    have hplace : quote <+: units.drop (start + before.length) := by
      rw [← List.drop_drop]
      obtain ⟨rest, hrest⟩ := hleads
      rw [← hrest, List.append_assoc, List.drop_left]
      exact List.prefix_append _ _
    have hle := hfirst _ hplace
    have hlength := congrArg List.length hcut
    simp only [List.length_append, List.length_take] at hlength
    omega
  · intro hleft
    obtain ⟨rest, hrest⟩ := hstands
    have hsplit : units.drop start =
        (units.drop start).take (index - start) ++ quote ++ rest := by
      rw [List.append_assoc, hrest]
      have hdrop : units.drop index = (units.drop start).drop (index - start) := by
        rw [List.drop_drop, Nat.add_sub_cancel' hstart]
      rw [hdrop, List.take_append_drop]
    rw [hsplit]
    refine infix_take_of_split ?_
    rw [List.length_take]
    omega

/-! ## Captured texts -/

/-- The chunks that a capture writes for a text. -/
def captureChunks (sha : Sha256) (sourceRecordId text : String) : List SourceRecallChunk :=
  (chunkLiveUserTurnText (codeUnits text)).zipIdx.map fun (units, index) =>
    let chunkText := textOfUnits units
    let chunkHash := sha.digest (sourceRecordId ++ "\n" ++ toString index ++ "\n" ++ chunkText)
    { chunkId := "source_chunk_" ++ sliceUnits 24 chunkHash
      sourceRecordId := sourceRecordId
      chunkIndex := index
      text := chunkText
      chunkHash := chunkHash
      lifecycleState := .active }

/-- The document holds a capture of the text under the record, and as captures write them none of
its records is sensitive. -/
structure HoldsCapture (document : SourceRecallDocument) (record : SourceRecallRecord)
    (text : String) : Prop where
  record_of : recordById document.records record.sourceRecordId = some record
  active : record.lifecycleState = .active
  chunks : ∀ units ∈ chunkLiveUserTurnText (codeUnits text), ∃ chunk ∈ document.chunks,
    chunk.sourceRecordId = record.sourceRecordId ∧ chunk.lifecycleState = .active ∧
      chunk.text = textOfUnits units
  ordinary : ∀ held ∈ document.records, held.sensitive = false

/-! ## A retrieval by quote -/

section Retrieval

variable {platform : Platform} {hostSort : HostSort} {document : SourceRecallDocument}
  {query : SourceRecallRetrievalQuery} {budget : NormalizedOutputBudget} {quote : String}

/-- The query asks for a quote of a record that it may see, and the budget has room for the
quote. -/
structure AsksQuote (query : SourceRecallRetrievalQuery) (budget : NormalizedOutputBudget)
    (record : SourceRecallRecord) (quote : String) : Prop where
  mode : resolveRetrievalMode query = .exactQuote
  quoted : query.exactQuote = some quote
  recordMatches : RecordMatches record query budget
  records : 1 ≤ budget.maxRecords
  chunks : 1 ≤ budget.maxChunks
  perChunk : utf16Length quote ≤ budget.maxExcerptCharsPerChunk
  total : utf16Length quote ≤ budget.maxTotalExcerptChars

/-- Where the quote ends in the excerpt that stands around its first place. -/
def quoteEnd (quote : String) (maxChars : ℕ) (chunk : SourceRecallChunk) : ℕ :=
  match indexOfUnits (codeUnits quote) (codeUnits chunk.text) with
  | none => 0
  | some index => min index ((maxChars - utf16Length quote) / 2) + utf16Length quote

lemma quoteEnd_le (chunk : SourceRecallChunk) {maxChars : ℕ}
    (h : utf16Length quote ≤ maxChars) : quoteEnd quote maxChars chunk ≤ maxChars := by
  unfold quoteEnd
  split
  · exact Nat.zero_le _
  · omega

variable {record : SourceRecallRecord} {text : String}

lemma AsksQuote.asked_quote (h : AsksQuote query budget record quote) :
    asked query.exactQuote = some quote := by
  have hmode := h.mode
  unfold resolveRetrievalMode at hmode
  rw [h.quoted] at hmode ⊢
  by_cases hempty : quote = ""
  · subst hempty
    have hnone : asked (some "") = none := rfl
    rw [hnone] at hmode
    split_ifs at hmode
    simp_all
  · simp [asked, hempty]

lemma AsksQuote.asked_chunk (h : AsksQuote query budget record quote) :
    asked query.chunkId = none := by
  have hmode := h.mode
  unfold resolveRetrievalMode at hmode
  by_cases hchunk : (asked query.chunkId).isSome = true
  · rw [if_pos (.inr hchunk)] at hmode
    cases hmode
  · simpa using hchunk

lemma AsksQuote.nonempty (h : AsksQuote query budget record quote) : quote ≠ "" := by
  have hasked := h.asked_quote
  rw [h.quoted] at hasked
  simpa [asked] using hasked

lemma AsksQuote.length_pos (h : AsksQuote query budget record quote) :
    0 < utf16Length quote := by
  refine List.length_pos_iff.mpr fun hunits => h.nonempty ?_
  exact codeUnits_eq_nil hunits

/-- The chunk that holds the quote is a candidate. -/
lemma exists_quoting_candidate (hheld : HoldsCapture document record text)
    (hasks : AsksQuote query budget record quote) {units : List ℕ}
    (hunits : units ∈ chunkLiveUserTurnText (codeUnits text))
    (hquote : codeUnits quote <:+: units) :
    ∃ candidate, candidate ∈ candidateChunks platform document query budget := by
  obtain ⟨chunk, hchunk, hid, hactive, htext⟩ := hheld.chunks units hunits
  have hfound : (indexOfUnits (codeUnits quote) (codeUnits chunk.text)).isSome = true := by
    rw [isSome_indexOfUnits, htext]
    exact infix_textOfUnits hquote hasks.nonempty
  have hadmitted : admitted query budget record chunk = true := by
    simp only [admitted, isRecordAndChunkVisible, isSourceRecallLifecycleVisible, hheld.active,
      hactive, matchesRecordQuery_iff.mpr hasks.recordMatches, hasks.asked_chunk,
      hasks.asked_quote, Option.all_none, Option.all_some, hfound, decide_true, Bool.and_self]
  obtain ⟨ranking, hranking⟩ : ∃ ranking,
      scoreCandidate platform record chunk query = some ranking := by
    unfold scoreCandidate
    simp only [hasks.mode]
    exact ⟨_, rfl⟩
  refine ⟨⟨record, chunk, ranking⟩, List.mem_filterMap.mpr ⟨chunk, hchunk, ?_⟩⟩
  rw [toCandidate_judgeChunk, hid, hheld.record_of, Option.bind_some, if_pos hadmitted, hranking]
  rfl

/-- A candidate of the retrieval holds the quote, and is not redacted. -/
lemma quotes_of_candidate (hheld : HoldsCapture document record text)
    (hasks : AsksQuote query budget record quote) {candidate : CandidateChunk}
    (h : candidate ∈ candidateChunks platform document query budget) :
    candidate.record.sensitive = false ∧
      ∃ index, indexOfUnits (codeUnits quote) (codeUnits candidate.chunk.text) = some index := by
  refine ⟨hheld.ordinary _ (activeMatch_of_candidate h).record_mem, ?_⟩
  obtain ⟨chunk, hchunk, hcandidate⟩ := List.mem_filterMap.mp h
  rw [toCandidate_judgeChunk] at hcandidate
  obtain ⟨found, hfound, hrest⟩ := Option.bind_eq_some_iff.mp hcandidate
  split_ifs at hrest with hadmitted
  obtain ⟨ranking, -, rfl⟩ := Option.map_eq_some_iff.mp hrest
  simp only [admitted, hasks.asked_quote, Option.all_some, Bool.and_eq_true] at hadmitted
  exact Option.isSome_iff_exists.mp hadmitted.2

/-- The excerpt around a quote, cut to what is left of the budget. -/
def quoteExcerpt (query : SourceRecallRetrievalQuery) (budget : NormalizedOutputBudget)
    (candidate : CandidateChunk) : SourceRecallExcerpt :=
  { buildBudgetedExcerpt candidate query.exactQuote budget with
    excerpt := (buildBudgetedExcerpt candidate query.exactQuote budget).excerpt.take
      budget.maxTotalExcerptChars }

/-- A cut of the excerpt shows the quote exactly where it reaches the end of it. -/
lemma infix_take_excerpt_iff (hasks : AsksQuote query budget record quote)
    {candidate : CandidateChunk} (hsensitive : candidate.record.sensitive = false) {index : ℕ}
    (hindex : indexOfUnits (codeUnits quote) (codeUnits candidate.chunk.text) = some index)
    (left : ℕ) :
    codeUnits quote <:+:
        (buildBudgetedExcerpt candidate query.exactQuote budget).excerpt.take left ↔
      quoteEnd quote budget.maxExcerptCharsPerChunk candidate.chunk ≤ left := by
  obtain ⟨hstands, hfirst⟩ := indexOfUnits_spec hindex
  have hperChunk := hasks.perChunk
  have hstart : excerptStart (codeUnits candidate.chunk.text) query.exactQuote
      budget.maxExcerptCharsPerChunk =
        index - (budget.maxExcerptCharsPerChunk - utf16Length quote) / 2 := by
    simp only [excerptStart, hasks.asked_quote, hindex]
  have hexcerpt : (buildBudgetedExcerpt candidate query.exactQuote budget).excerpt.take left =
      ((codeUnits candidate.chunk.text).drop
        (index - (budget.maxExcerptCharsPerChunk - utf16Length quote) / 2)).take
          (min left budget.maxExcerptCharsPerChunk) := by
    simp only [buildBudgetedExcerpt, hsensitive, Bool.false_eq_true, if_false, buildExcerpt,
      hstart, List.take_take]
  have hlength : (codeUnits quote).length = utf16Length quote := rfl
  rw [hexcerpt, infix_cut_iff hstands hfirst (Nat.sub_le _ _), hlength, quoteEnd, hindex]
  dsimp only
  omega

lemma takeCandidate_first (hasks : AsksQuote query budget record quote)
    {candidate : CandidateChunk} (hsensitive : candidate.record.sensitive = false)
    (blocked : ℕ) :
    (takeCandidate query budget ⟨[], [], 0, blocked⟩ candidate).excerpts =
        [quoteExcerpt query budget candidate] ∧
      (takeCandidate query budget ⟨[], [], 0, blocked⟩ candidate).totalCharsReturned =
        (quoteExcerpt query budget candidate).excerpt.length := by
  have hrecords := hasks.records
  have hchunks := hasks.chunks
  have htotal := hasks.total
  have hpos := hasks.length_pos
  have hslot : ¬budget.maxRecords ≤ ([] : List String).length := by
    simp only [List.length_nil]
    omega
  have hroom : ¬budget.maxChunks ≤ ([] : List SourceRecallExcerpt).length := by
    simp only [List.length_nil]
    omega
  have hallowed : ¬(candidate.record.sensitive = true ∧
      budget.sensitivityRedactionPolicy = .excludeSensitive) := by simp [hsensitive]
  have hleft : ¬budget.maxTotalExcerptChars - 0 = 0 := by omega
  unfold takeCandidate takeExcerpt
  dsimp only
  rw [if_neg List.not_mem_nil, if_neg hslot, if_neg hroom, if_neg hallowed, if_neg hleft]
  simp [quoteExcerpt]

/-- A budget that is used up gives no further excerpt. -/
lemma takeCandidate_used {progress : RecallProgress}
    (h : budget.maxTotalExcerptChars ≤ progress.totalCharsReturned) (candidate : CandidateChunk) :
    (takeCandidate query budget progress candidate).excerpts = progress.excerpts ∧
      (takeCandidate query budget progress candidate).totalCharsReturned =
        progress.totalCharsReturned := by
  have hnone : budget.maxTotalExcerptChars - progress.totalCharsReturned = 0 := by omega
  unfold takeCandidate takeExcerpt
  dsimp only
  simp only [hnone, if_true]
  split_ifs <;> exact ⟨rfl, rfl⟩

lemma foldl_used {progress : RecallProgress}
    (h : budget.maxTotalExcerptChars ≤ progress.totalCharsReturned)
    (candidates : List CandidateChunk) :
    (candidates.foldl (takeCandidate query budget) progress).excerpts = progress.excerpts := by
  induction candidates generalizing progress with
  | nil => rfl
  | cons candidate candidates ih =>
      obtain ⟨hexcerpts, htotal⟩ := @takeCandidate_used query budget progress h candidate
      rw [List.foldl_cons, ih (htotal ▸ h), hexcerpts]

/-- What follows the first candidate does not bring the quote back when it was cut off. -/
lemma quote_shown_iff (hasks : AsksQuote query budget record quote)
    {first : CandidateChunk} (rest : List CandidateChunk)
    (hsensitive : first.record.sensitive = false) {index : ℕ}
    (hindex : indexOfUnits (codeUnits quote) (codeUnits first.chunk.text) = some index)
    (blocked : ℕ) :
    (∃ excerpt ∈ ((first :: rest).foldl (takeCandidate query budget) ⟨[], [], 0, blocked⟩).excerpts,
      codeUnits quote <:+: excerpt.excerpt) ↔
      quoteEnd quote budget.maxExcerptCharsPerChunk first.chunk ≤
        budget.maxTotalExcerptChars := by
  obtain ⟨hexcerpts, htotal⟩ := takeCandidate_first hasks hsensitive blocked
  have hcut := infix_take_excerpt_iff hasks hsensitive hindex
  rw [List.foldl_cons, ← hcut]
  constructor
  · rintro ⟨excerpt, hmem, hquote⟩
    by_cases hused : budget.maxTotalExcerptChars ≤
        (takeCandidate query budget ⟨[], [], 0, blocked⟩ first).totalCharsReturned
    · -- nothing follows the first excerpt
      rw [foldl_used hused, hexcerpts] at hmem
      obtain rfl := List.mem_singleton.mp hmem
      exact hquote
    · -- the first excerpt was not cut
      have hshort : (buildBudgetedExcerpt first query.exactQuote budget).excerpt.length ≤
          budget.maxTotalExcerptChars := by
        rw [htotal, quoteExcerpt, List.length_take] at hused
        omega
      have hin := (hcut budget.maxExcerptCharsPerChunk).mpr
        (quoteEnd_le first.chunk hasks.perChunk)
      rw [List.take_of_length_le hshort]
      exact hin.trans (List.take_prefix _ _).isInfix
  · intro hquote
    refine ⟨quoteExcerpt query budget first, subset_foldl rest ?_, hquote⟩
    rw [hexcerpts]
    exact List.mem_singleton.mpr rfl

end Retrieval

/-- A quote is never lost between the chunks of a covered text, and the retrieval shows it exactly
where the total budget reaches its end in the excerpt of the candidate that ranks first. -/
theorem quote_recall_iff (platform : Platform) (hostSort : HostSort) {text : String}
    (hcovered : utf16Length text ≤ coveredChars) :
    (∀ quote, quote.length ≤ liveUserTurnChunkOverlapChars → quote <:+: codeUnits text →
      ∃ units ∈ chunkLiveUserTurnText (codeUnits text), quote <:+: units) ∧
    ((chunkLiveUserTurnText (codeUnits text)).IsChain fun left right =>
      left.drop (liveUserTurnMaxChunkChars - liveUserTurnChunkOverlapChars) =
        right.take liveUserTurnChunkOverlapChars) ∧
    joined liveUserTurnChunkOverlapChars (chunkLiveUserTurnText (codeUnits text)) =
      codeUnits text ∧
    ∀ (document : SourceRecallDocument) (record : SourceRecallRecord)
      (query : SourceRecallRetrievalQuery) (budget : SourceRecallOutputBudget) (quote : String),
      HoldsCapture document record text →
      utf16Length quote ≤ liveUserTurnChunkOverlapChars →
      codeUnits quote <:+: codeUnits text →
      AsksQuote query (normalizeSourceRecallOutputBudget budget) record quote →
      ((∃ excerpt ∈ (retrieveSourceRecall platform hostSort document query budget).excerpts,
        codeUnits quote <:+: excerpt.excerpt) ↔
      ∀ first ∈ (rankedCandidates platform hostSort document query
          (normalizeSourceRecallOutputBudget budget)).head?,
        quoteEnd quote (normalizeSourceRecallOutputBudget budget).maxExcerptCharsPerChunk
          first.chunk ≤ (normalizeSourceRecallOutputBudget budget).maxTotalExcerptChars) := by
  have hstride : liveUserTurnMaxChunkChars - liveUserTurnChunkOverlapChars ≤
      liveUserTurnMaxChunkChars := Nat.sub_le _ _
  have hoverlap : liveUserTurnMaxChunkChars -
      (liveUserTurnMaxChunkChars - liveUserTurnChunkOverlapChars) =
        liveUserTurnChunkOverlapChars := by decide
  have hlimit : (codeUnits text).length ≤ (liveUserTurnMaxChunks - 1) *
      (liveUserTurnMaxChunkChars - liveUserTurnChunkOverlapChars) +
        liveUserTurnMaxChunkChars := hcovered
  have hcover : ∀ quote, quote.length ≤ liveUserTurnChunkOverlapChars →
      quote <:+: codeUnits text →
      ∃ units ∈ chunkLiveUserTurnText (codeUnits text), quote <:+: units := by
    intro quote hshort hquote
    rw [← hoverlap] at hshort
    rw [chunkLiveUserTurnText_eq]
    exact exists_window_of_infix hstride hshort _ hlimit hquote
  refine ⟨hcover, ?_, ?_, ?_⟩
  · have hchain := @windows_overlap _ liveUserTurnMaxChunkChars
      (liveUserTurnMaxChunkChars - liveUserTurnChunkOverlapChars) (liveUserTurnMaxChunks - 1)
      (codeUnits text)
    rwa [hoverlap, ← chunkLiveUserTurnText_eq] at hchain
  · have hjoined := joined_windows hstride (liveUserTurnMaxChunks - 1) hlimit
    rwa [hoverlap, ← chunkLiveUserTurnText_eq] at hjoined
  · intro document record query budget quote hheld hshort hquote hasks
    obtain ⟨units, hunits, hin⟩ := hcover (codeUnits quote) hshort hquote
    obtain ⟨candidate, hcandidate⟩ :=
      @exists_quoting_candidate platform _ _ _ _ _ _ hheld hasks units hunits hin
    have hexcerpts : (retrieveSourceRecall platform hostSort document query budget).excerpts =
        ((rankedCandidates platform hostSort document query
          (normalizeSourceRecallOutputBudget budget)).foldl
            (takeCandidate query (normalizeSourceRecallOutputBudget budget))
            ⟨[], [], 0, document.chunks.countP fun chunk => (judgeChunk platform document.records
              query (normalizeSourceRecallOutputBudget budget) chunk).isBlocked⟩).excerpts := rfl
    have hmem : ∀ ranked ∈ rankedCandidates platform hostSort document query
        (normalizeSourceRecallOutputBudget budget), ranked ∈ candidateChunks platform document
          query (normalizeSourceRecallOutputBudget budget) :=
      fun ranked hranked => mem_rankedCandidates.mp hranked
    have hnonempty : candidate ∈ rankedCandidates platform hostSort document query
        (normalizeSourceRecallOutputBudget budget) := mem_rankedCandidates.mpr hcandidate
    rw [hexcerpts]
    generalize rankedCandidates platform hostSort document query
      (normalizeSourceRecallOutputBudget budget) = ranked at hmem hnonempty ⊢
    cases ranked with
    | nil => exact absurd hnonempty List.not_mem_nil
    | cons first rest =>
        obtain ⟨hsensitive, index, hindex⟩ :=
          quotes_of_candidate hheld hasks (hmem first List.mem_cons_self)
        rw [quote_shown_iff hasks rest hsensitive hindex]
        simp

/-! ## The gate code -/

def gateText : String := "the gate code is 4711"

/-- Ada asks for the code word for word. -/
def gateQuery : SourceRecallRetrievalQuery :=
  { speakerQuery "ada" with exactQuote := some "4711" }

/-- Twenty characters for the excerpt, and so many in all. -/
def gateBudget (maxTotalExcerptChars : ℚ) : SourceRecallOutputBudget :=
  { turnBudget with
    maxExcerptCharsPerChunk := 20
    maxTotalExcerptChars := maxTotalExcerptChars }

lemma holdsCapture_ada :
    HoldsCapture adaDocument (turnRecord "turn_1" "ada" .active) gateText := by
  have hchunks : chunkLiveUserTurnText (codeUnits gateText) = [codeUnits gateText] := by
    decide
  have htext : textOfUnits (codeUnits gateText) = gateText := by decide
  refine ⟨rfl, rfl, fun units hunits => ?_, by decide⟩
  rw [hchunks, List.mem_singleton] at hunits
  subst hunits
  exact ⟨_, List.mem_singleton.mpr rfl, rfl, rfl, htext.symm⟩

theorem quote_recall_iff_gate :
    utf16Length gateText ≤ coveredChars ∧
    HoldsCapture adaDocument (turnRecord "turn_1" "ada" .active) gateText ∧
    AsksQuote gateQuery (normalizeSourceRecallOutputBudget (gateBudget 60))
      (turnRecord "turn_1" "ada" .active) "4711" ∧
    ∃ excerpt ∈ (retrieveSourceRecall recallPlatform .insertion adaDocument gateQuery
        (gateBudget 60)).excerpts, codeUnits "4711" <:+: excerpt.excerpt := by
  have hcovered : utf16Length gateText ≤ coveredChars := by decide
  have hasks : AsksQuote gateQuery (normalizeSourceRecallOutputBudget (gateBudget 60))
      (turnRecord "turn_1" "ada" .active) "4711" :=
    ⟨by decide, rfl, matchesRecordQuery_iff.mp (by decide), by decide,
      by decide, by decide, by decide⟩
  have hroom : (normalizeSourceRecallOutputBudget (gateBudget 60)).maxExcerptCharsPerChunk ≤
      (normalizeSourceRecallOutputBudget (gateBudget 60)).maxTotalExcerptChars := by
    decide
  refine ⟨hcovered, holdsCapture_ada, hasks, ?_⟩
  refine ((quote_recall_iff recallPlatform .insertion hcovered).2.2.2 adaDocument _ gateQuery
    (gateBudget 60) "4711" holdsCapture_ada (by decide) (by decide) hasks).mpr ?_
  exact fun first _ => (quoteEnd_le first.chunk hasks.perChunk).trans hroom

/-- A total budget of ten characters holds the code, but not the excerpt up to the end of it. -/
theorem total_budget_cuts_quote :
    HoldsCapture adaDocument (turnRecord "turn_1" "ada" .active) gateText ∧
    AsksQuote gateQuery (normalizeSourceRecallOutputBudget (gateBudget 10))
      (turnRecord "turn_1" "ada" .active) "4711" ∧
    ¬∃ excerpt ∈ (retrieveSourceRecall recallPlatform .insertion adaDocument gateQuery
        (gateBudget 10)).excerpts, codeUnits "4711" <:+: excerpt.excerpt := by
  have hasks : AsksQuote gateQuery (normalizeSourceRecallOutputBudget (gateBudget 10))
      (turnRecord "turn_1" "ada" .active) "4711" :=
    ⟨by decide, rfl, matchesRecordQuery_iff.mp (by decide), by decide,
      by decide, by decide, by decide⟩
  have hexcerpts : ((retrieveSourceRecall recallPlatform .insertion adaDocument gateQuery
      (gateBudget 10)).excerpts.map (·.excerpt)) = [codeUnits "code is 47"] := by decide
  refine ⟨holdsCapture_ada, hasks, ?_⟩
  rintro ⟨excerpt, hmem, hquote⟩
  have hin := List.mem_map_of_mem (f := SourceRecallExcerpt.excerpt) hmem
  rw [hexcerpts, List.mem_singleton] at hin
  rw [hin] at hquote
  revert hquote
  decide

end AgentBigBrain.Core
