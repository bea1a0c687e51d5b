import AgentBigBrain.Core.JournalWatermarks
import AgentBigBrain.Js.HostOrder
import AgentBigBrain.Js.TieOrder
import AgentBigBrain.Lib.MixedOrder

/-!
# The two orders of stored journal entries

Freshness orders the entries of a journal; the freshest entry of an id or of a payload is kept.
Replay compares two entries by their watermarks where both have one, and by their times
otherwise; it orders the entries unless an entry without a watermark closes a circle.
-/
namespace AgentBigBrain.Core

open AgentBigBrain.Js AgentBigBrain.Lib

/-! ## What an entry records -/

def journalPayloadMembers (entry : ProfileMemoryMutationJournalEntry) : List (String × Json) :=
  [("recordedAt", .str entry.recordedAt), ("sourceTaskId", textOrNull entry.sourceTaskId),
    ("sourceFingerprint", textOrNull entry.sourceFingerprint),
    ("mutationEnvelopeHash", textOrNull entry.mutationEnvelopeHash),
    ("observationIds", textArray entry.observationIds), ("claimIds", textArray entry.claimIds),
    ("eventIds", textArray entry.eventIds),
    ("redactionState", .str entry.redactionState.text)]

/-- What the canonical id of an entry is the digest of. -/
def journalPayload (entry : ProfileMemoryMutationJournalEntry) : Json :=
  .obj (journalPayloadMembers entry)

/-- Two entries that differ at most in their ids and watermarks. -/
def RecordsSame (left right : ProfileMemoryMutationJournalEntry) : Prop :=
  { left with journalEntryId := right.journalEntryId, watermark := right.watermark } = right

lemma journalPayload_distinct (entry : ProfileMemoryMutationJournalEntry) :
    (journalPayload entry).DistinctKeys := by
  have htext : ∀ text : Option String, (textOrNull text).DistinctKeys := by
    intro text
    cases text <;> trivial
  have harray : ∀ texts : List String, (textArray texts).DistinctKeys := by
    intro texts
    rw [textArray, Json.distinctKeys_arr]
    intro x hx
    obtain ⟨text, -, rfl⟩ := List.mem_map.mp hx
    trivial
  simp [journalPayload, journalPayloadMembers, htext, harray, Json.DistinctKeys]

lemma withoutProto_journalPayload (entry : ProfileMemoryMutationJournalEntry) :
    withoutProto (journalPayload entry) = journalPayload entry := by
  have htext : ∀ text : Option String, withoutProto (textOrNull text) = textOrNull text := by
    intro text
    cases text <;> rfl
  have harray : ∀ texts : List String, withoutProto (textArray texts) = textArray texts := by
    intro texts
    simp [textArray, withoutProto, Function.comp_def]
  simp [journalPayload, journalPayloadMembers, withoutProto, protoKey, htext, harray]

lemma textOrNull_of_sameValue {left right : Option String}
    (h : Json.SameValue (textOrNull left) (textOrNull right)) : left = right := by
  cases left <;> cases right <;> simp_all [textOrNull, Json.SameValue, Json.sortKeys]

lemma textArray_of_sameValue {left right : List String}
    (h : Json.SameValue (textArray left) (textArray right)) : left = right := by
  have hforall := Json.sameValue_arr.mp h
  induction left generalizing right with
  | nil =>
      cases right with
      | nil => rfl
      | cons text texts => simp at hforall
  | cons text texts ih =>
      cases right with
      | nil => simp at hforall
      | cons text' texts' =>
          obtain ⟨hhead, htail⟩ := List.forall₂_cons.mp hforall
          have htext : text = text' := by simpa [Json.SameValue, Json.sortKeys] using hhead
          rw [htext, ih (Json.sameValue_arr.mpr htail) htail]

lemma redactionState_text_injective {left right : JournalRedactionState}
    (h : left.text = right.text) : left = right := by
  cases left <;> cases right <;> simp_all [JournalRedactionState.text]

/-- One canonical text belongs to entries that record the same. -/
lemma recordsSame_of_canonicalJson_eq {locale : Locale}
    {left right : ProfileMemoryMutationJournalEntry}
    (h : canonicalJson locale (journalPayload left) = canonicalJson locale (journalPayload right)) :
    RecordsSame left right := by
  have hsame := sameValue_of_canonicalJson_eq (journalPayload_distinct left)
    (journalPayload_distinct right) h
  rw [withoutProto_journalPayload, withoutProto_journalPayload] at hsame
  have hkeys := fun entry => ((Json.distinctKeys_obj _).mp (journalPayload_distinct entry)).1
  have hvalue : ∀ key x y, (key, x) ∈ journalPayloadMembers left →
      (key, y) ∈ journalPayloadMembers right → Json.SameValue x y := by
    intro key x y hx hy
    obtain ⟨z, hz, hxz⟩ := Json.members_of_sameValue (hkeys left) hsame hx
    obtain ⟨-, rfl⟩ := Prod.mk.inj (Json.eq_of_key_eq (hkeys right) hz hy rfl)
    exact hxz
  have htext : ∀ key a b, (key, Json.str a) ∈ journalPayloadMembers left →
      (key, Json.str b) ∈ journalPayloadMembers right → a = b := by
    intro key a b ha hb
    simpa [Json.SameValue, Json.sortKeys] using hvalue key _ _ ha hb
  have hrecordedAt := htext "recordedAt" left.recordedAt right.recordedAt
    (by simp [journalPayloadMembers]) (by simp [journalPayloadMembers])
  have hstate := redactionState_text_injective (htext "redactionState" left.redactionState.text
    right.redactionState.text (by simp [journalPayloadMembers]) (by simp [journalPayloadMembers]))
  have hsourceTaskId := textOrNull_of_sameValue (hvalue "sourceTaskId"
    (textOrNull left.sourceTaskId) (textOrNull right.sourceTaskId)
    (by simp [journalPayloadMembers]) (by simp [journalPayloadMembers]))
  have hfingerprint := textOrNull_of_sameValue (hvalue "sourceFingerprint"
    (textOrNull left.sourceFingerprint) (textOrNull right.sourceFingerprint)
    (by simp [journalPayloadMembers]) (by simp [journalPayloadMembers]))
  have henvelope := textOrNull_of_sameValue (hvalue "mutationEnvelopeHash"
    (textOrNull left.mutationEnvelopeHash) (textOrNull right.mutationEnvelopeHash)
    (by simp [journalPayloadMembers]) (by simp [journalPayloadMembers]))
  have hobservations := textArray_of_sameValue (hvalue "observationIds"
    (textArray left.observationIds) (textArray right.observationIds)
    (by simp [journalPayloadMembers]) (by simp [journalPayloadMembers]))
  have hclaims := textArray_of_sameValue (hvalue "claimIds" (textArray left.claimIds)
    (textArray right.claimIds) (by simp [journalPayloadMembers]) (by simp [journalPayloadMembers]))
  have hevents := textArray_of_sameValue (hvalue "eventIds" (textArray left.eventIds)
    (textArray right.eventIds) (by simp [journalPayloadMembers]) (by simp [journalPayloadMembers]))
  simp only [RecordsSame, hrecordedAt, hstate, hsourceTaskId, hfingerprint, henvelope,
    hobservations, hclaims, hevents]

/-! ## The platform -/

section Laws

variable (platform : JournalPlatform) (fallback : String)

/-- The texts that a stored entry can be read with as its time. -/
def IsRecordedTime (time : String) : Prop :=
  (∃ text ms, platform.dateParse text = some ms ∧ time = platform.toISOString ms) ∨
    time = normalizeRecordedAtForComparison platform fallback

/-- What the times, ids and digests of these entries rely on: a date is parsed back from its ISO
text, `localeCompare` takes no two of the times and no two hexadecimal ids as equal, and the
digests of the payloads at hand differ in the digits that the ids keep. -/
structure JournalLaws (candidates : List NormalizedJournalEntryCandidate) : Prop where
  trim_toISOString : ∀ text ms, platform.dateParse text = some ms →
    trim (platform.toISOString ms) = platform.toISOString ms
  parse_toISOString : ∀ text ms, platform.dateParse text = some ms →
    platform.dateParse (platform.toISOString ms) = some ms
  times_apart : ∀ time time', IsRecordedTime platform fallback time →
    IsRecordedTime platform fallback time' → platform.locale.tied time time' = true → time = time'
  ids_apart : ∀ id id' : String, (∀ c ∈ id.toList, isHexDigit c = true) →
    (∀ c ∈ id'.toList, isHexDigit c = true) →
      platform.locale.tied ("journal_" ++ id) ("journal_" ++ id') = true → id = id'
  digests_apart : ∀ left ∈ candidates, ∀ right ∈ candidates,
    sliceUnits 24 (sha256HexFromCanonicalJson platform (journalPayload left.entry)) =
      sliceUnits 24 (sha256HexFromCanonicalJson platform (journalPayload right.entry)) →
        canonicalJson platform.locale (journalPayload left.entry) =
          canonicalJson platform.locale (journalPayload right.entry)

variable {platform fallback} {candidates : List NormalizedJournalEntryCandidate}

lemma normalizeRecordedAtForComparison_of_isRecordedTime
    (h : JournalLaws platform fallback candidates) {time : String}
    (htime : IsRecordedTime platform fallback time) :
    normalizeRecordedAtForComparison platform time = time := by
  have hiso : ∀ text ms, platform.dateParse text = some ms →
      normalizeRecordedAtForComparison platform (platform.toISOString ms) =
        platform.toISOString ms := by
    intro text ms hparse
    simp only [normalizeRecordedAtForComparison, h.trim_toISOString text ms hparse,
      h.parse_toISOString text ms hparse]
  rcases htime with ⟨text, ms, hparse, rfl⟩ | rfl
  · exact hiso text ms hparse
  · cases hparse : platform.dateParse (trim fallback) with
    | none => simp [normalizeRecordedAtForComparison, hparse]
    | some ms =>
        have hfallback : normalizeRecordedAtForComparison platform fallback =
            platform.toISOString ms := by
          simp only [normalizeRecordedAtForComparison, hparse]
        rw [hfallback, hiso _ ms hparse]

/-- The canonical id of what an entry records. -/
def canonicalIdOf (platform : JournalPlatform) (candidate : NormalizedJournalEntryCandidate) :
    String :=
  buildProfileMemoryMutationJournalCanonicalEntryId platform candidate.entry

lemma canonicalEntryId_eq (entry : ProfileMemoryMutationJournalEntry) :
    buildProfileMemoryMutationJournalCanonicalEntryId platform entry =
      "journal_" ++ sliceUnits 24 (sha256HexFromCanonicalJson platform (journalPayload entry)) :=
  rfl

lemma takeUnits_subset (n : ℕ) (cs : List Char) : takeUnits n cs ⊆ cs := by
  induction cs generalizing n with
  | nil => exact List.Subset.refl _
  | cons c cs ih =>
      unfold takeUnits
      split_ifs
      · exact List.cons_subset_cons c (ih _)
      · exact List.nil_subset _

lemma hex_of_mem_slice {entry : ProfileMemoryMutationJournalEntry} {c : Char}
    (hc : c ∈ (sliceUnits 24
      (sha256HexFromCanonicalJson platform (journalPayload entry))).toList) :
    isHexDigit c = true := by
  rw [sliceUnits, String.toList_ofList] at hc
  exact platform.sha.hex _ c (takeUnits_subset _ _ hc)

lemma canonicalEntryId_eq_of_tied (h : JournalLaws platform fallback candidates)
    {left right : ProfileMemoryMutationJournalEntry}
    (htied : platform.locale.tied
      (buildProfileMemoryMutationJournalCanonicalEntryId platform left)
      (buildProfileMemoryMutationJournalCanonicalEntryId platform right) = true) :
    buildProfileMemoryMutationJournalCanonicalEntryId platform left =
      buildProfileMemoryMutationJournalCanonicalEntryId platform right := by
  rw [canonicalEntryId_eq, canonicalEntryId_eq] at htied ⊢
  rw [h.ids_apart _ _ (fun c => hex_of_mem_slice) (fun c => hex_of_mem_slice) htied]

/-- Entries under one canonical id record the same. -/
lemma recordsSame_of_canonicalId_eq (h : JournalLaws platform fallback candidates)
    {left right : NormalizedJournalEntryCandidate} (hleft : left ∈ candidates)
    (hright : right ∈ candidates)
    (hids : canonicalIdOf platform left = canonicalIdOf platform right) :
    RecordsSame left.entry right.entry := by
  refine recordsSame_of_canonicalJson_eq (h.digests_apart left hleft right hright ?_)
  rw [canonicalIdOf, canonicalIdOf, canonicalEntryId_eq, canonicalEntryId_eq] at hids
  exact (String.append_right_inj _).mp hids

end Laws

/-! ## Ranks of texts -/

section Ranks

variable (platform : JournalPlatform)

/-- How many of the texts come no later than the text. -/
def textRank (texts : List String) (text : String) : ℕ :=
  rankIn platform.locale.le texts text

variable {platform} {texts : List String} {left right : String}

lemma locale_le_iff (hleft : left ∈ texts) (hright : right ∈ texts) :
    platform.locale.le left right = true ↔
      textRank platform texts left ≤ textRank platform texts right :=
  (OrdersList.of_comparator platform.locale fun _ _ _ _ => rfl).le_iff_rankIn_le hleft hright

lemma textRank_eq_iff (hleft : left ∈ texts) (hright : right ∈ texts)
    (hapart : platform.locale.tied left right = true → left = right) :
    textRank platform texts left = textRank platform texts right ↔ left = right := by
  constructor
  · intro hrank
    refine hapart (platform.locale.tied_iff.mpr ⟨?_, ?_⟩)
    · exact (locale_le_iff hleft hright).mpr hrank.le
    · exact (locale_le_iff hright hleft).mpr hrank.ge
  · exact congrArg _

lemma localeThen_iff (hleft : left ∈ texts) (hright : right ∈ texts)
    (hapart : platform.locale.tied left right = true → left = right) (next : Bool) :
    localeThen platform left right next = true ↔
      textRank platform texts left < textRank platform texts right ∨
        textRank platform texts left = textRank platform texts right ∧ next = true := by
  unfold localeThen
  split_ifs with heq
  · simp [heq]
  · have hne := mt (textRank_eq_iff hleft hright hapart).mp heq
    rw [locale_le_iff hleft hright]
    omega

end Ranks

/-! ## Freshness -/

section Freshness

variable (platform : JournalPlatform) {fallback : String}
  (candidates : List NormalizedJournalEntryCandidate)

def timeRank (candidate : NormalizedJournalEntryCandidate) : ℕ :=
  textRank platform (candidates.map (·.entry.recordedAt)) candidate.entry.recordedAt

def canonicalRank (candidate : NormalizedJournalEntryCandidate) : ℕ :=
  textRank platform (candidates.map (canonicalIdOf platform)) (canonicalIdOf platform candidate)

def idRank (candidate : NormalizedJournalEntryCandidate) : ℕ :=
  textRank platform (candidates.map (·.entry.journalEntryId)) candidate.entry.journalEntryId

/-- Watermark, time, id and canonical id, in this order. -/
def freshnessKey (candidate : NormalizedJournalEntryCandidate) : ℕ ×ₗ ℕ ×ₗ ℕ ×ₗ ℕ :=
  toLex (candidate.entry.watermark, toLex (timeRank platform candidates candidate,
    toLex (idRank platform candidates candidate, canonicalRank platform candidates candidate)))

variable {platform candidates} {left right : NormalizedJournalEntryCandidate}

lemma canonicalRank_eq_iff (h : JournalLaws platform fallback candidates)
    (hleft : left ∈ candidates) (hright : right ∈ candidates) :
    canonicalRank platform candidates left = canonicalRank platform candidates right ↔
      canonicalIdOf platform left = canonicalIdOf platform right :=
  textRank_eq_iff (List.mem_map_of_mem hleft) (List.mem_map_of_mem hright)
    (canonicalEntryId_eq_of_tied h)

/-- Every stored entry has a time that can be compared. -/
def TimesRead (platform : JournalPlatform) (fallback : String)
    (candidates : List NormalizedJournalEntryCandidate) : Prop :=
  ∀ candidate ∈ candidates, IsRecordedTime platform fallback candidate.entry.recordedAt

lemma timeThen_iff (h : JournalLaws platform fallback candidates)
    (htimes : TimesRead platform fallback candidates) (hleft : left ∈ candidates)
    (hright : right ∈ candidates) (next : Bool) :
    localeThen platform (normalizeRecordedAtForComparison platform left.entry.recordedAt)
        (normalizeRecordedAtForComparison platform right.entry.recordedAt) next = true ↔
      timeRank platform candidates left < timeRank platform candidates right ∨
        timeRank platform candidates left = timeRank platform candidates right ∧ next = true := by
  rw [normalizeRecordedAtForComparison_of_isRecordedTime h (htimes left hleft),
    normalizeRecordedAtForComparison_of_isRecordedTime h (htimes right hright)]
  have hmem : ∀ c ∈ candidates, c.entry.recordedAt ∈ candidates.map (·.entry.recordedAt) :=
    fun c hc => List.mem_map.mpr ⟨c, hc, rfl⟩
  have hapart := h.times_apart left.entry.recordedAt right.entry.recordedAt (htimes left hleft)
    (htimes right hright)
  exact localeThen_iff (hmem left hleft) (hmem right hright) hapart next

theorem freshness_iff (h : JournalLaws platform fallback candidates)
    (htimes : TimesRead platform fallback candidates) (hleft : left ∈ candidates)
    (hright : right ∈ candidates) :
    compareJournalEntryFreshness platform left.entry right.entry = true ↔
      freshnessKey platform candidates left ≤ freshnessKey platform candidates right := by
  have hids : ∀ c ∈ candidates, ∀ d ∈ candidates,
      platform.locale.le c.entry.journalEntryId d.entry.journalEntryId = true ↔
        idRank platform candidates c ≤ idRank platform candidates d := by
    intro c hc d hd
    exact locale_le_iff (List.mem_map.mpr ⟨c, hc, rfl⟩) (List.mem_map.mpr ⟨d, hd, rfl⟩)
  have hcanonical : platform.locale.le (canonicalIdOf platform left)
      (canonicalIdOf platform right) = true ↔
        canonicalRank platform candidates left ≤ canonicalRank platform candidates right :=
    locale_le_iff (List.mem_map_of_mem hleft) (List.mem_map_of_mem hright)
  simp only [freshnessKey, Prod.Lex.toLex_le_toLex]
  unfold compareJournalEntryFreshness
  split_ifs with hwatermark htied
  · rw [decide_eq_true_eq]
    omega
  · rw [timeThen_iff h htimes hleft hright]
    rw [Bool.and_eq_true, hids left hleft right hright, hids right hright left hleft] at htied
    rw [← canonicalIdOf, ← canonicalIdOf, hcanonical]
    omega
  · rw [timeThen_iff h htimes hleft hright, hids left hleft right hright]
    rw [Bool.and_eq_true, hids left hleft right hright, hids right hright left hleft] at htied
    omega

end Freshness

/-! ## Replay -/

section Replay

variable (platform : JournalPlatform) {fallback : String}
  (candidates : List NormalizedJournalEntryCandidate)

/-- The watermark where it was stored, the time, and the canonical id. -/
def placed (candidate : NormalizedJournalEntryCandidate) : Placed ℕ ℕ ℕ where
  stamp := if candidate.watermarkRecovered then none else some candidate.entry.watermark
  time := timeRank platform candidates candidate
  name := canonicalRank platform candidates candidate

variable {platform candidates} {left right : NormalizedJournalEntryCandidate}

/-- No two of the entries record the same. -/
def CanonicalIdsDistinct (platform : JournalPlatform)
    (candidates : List NormalizedJournalEntryCandidate) : Prop :=
  (candidates.map (canonicalIdOf platform)).Nodup

lemma ids_iff (h : JournalLaws platform fallback candidates)
    (hdistinct : CanonicalIdsDistinct platform candidates) (hleft : left ∈ candidates)
    (hright : right ∈ candidates) :
    compareJournalEntryIds platform left.entry right.entry = true ↔
      canonicalRank platform candidates left ≤ canonicalRank platform candidates right := by
  have hmem : ∀ c ∈ candidates, canonicalIdOf platform c ∈
      candidates.map (canonicalIdOf platform) := fun c hc => List.mem_map_of_mem hc
  have hthen := localeThen_iff (hmem left hleft) (hmem right hright)
    (canonicalEntryId_eq_of_tied h)
    (platform.locale.le left.entry.journalEntryId right.entry.journalEntryId)
  rw [compareJournalEntryIds, ← canonicalIdOf, ← canonicalIdOf, hthen, ← canonicalRank,
    ← canonicalRank, canonicalRank_eq_iff h hleft hright]
  constructor
  · rintro (hlt | ⟨hids, -⟩)
    · exact hlt.le
    · exact ((canonicalRank_eq_iff h hleft hright).mpr hids).le
  · intro hle
    rcases hle.lt_or_eq with hlt | heq
    · exact .inl hlt
    · have hids := (canonicalRank_eq_iff h hleft hright).mp heq
      have hsame : left = right := List.inj_on_of_nodup_map hdistinct hleft hright hids
      exact .inr ⟨hids, hsame ▸ platform.locale.le_refl _⟩

/-- The comparator of the replay, as the order of the places. -/
theorem replay_iff (h : JournalLaws platform fallback candidates)
    (htimes : TimesRead platform fallback candidates)
    (hdistinct : CanonicalIdsDistinct platform candidates) (hleft : left ∈ candidates)
    (hright : right ∈ candidates) :
    compareJournalEntryCandidateReplayOrder platform left right = true ↔
      (placed platform candidates left).le (placed platform candidates right) := by
  have hplace : (placed platform candidates left).place ≤ (placed platform candidates right).place ↔
      timeRank platform candidates left < timeRank platform candidates right ∨
        timeRank platform candidates left = timeRank platform candidates right ∧
          canonicalRank platform candidates left ≤ canonicalRank platform candidates right :=
    Prod.Lex.toLex_le_toLex
  have htime := timeThen_iff h htimes hleft hright
  have hids := ids_iff h hdistinct hleft hright
  unfold compareJournalEntryCandidateReplayOrder
  cases hl : left.watermarkRecovered with
  | false =>
      have hstamp : (placed platform candidates left).stamp = some left.entry.watermark := by
        simp [placed, hl]
      cases hr : right.watermarkRecovered with
      | false =>
          have hstamp' : (placed platform candidates right).stamp = some right.entry.watermark := by
            simp [placed, hr]
          rw [Placed.le_of_stamps hstamp hstamp', hplace]
          simp only [Bool.not_false, Bool.and_self, if_true, compareJournalEntryReplayOrder]
          split_ifs with hwatermark
          · rw [decide_eq_true_eq]
            omega
          · rw [htime, hids]
            omega
      | true =>
          have hstamp' : (placed platform candidates right).stamp = none := by
            simp [placed, hr]
          rw [Placed.le_of_stamp_left hstamp hstamp']
          simp only [Bool.not_true, Bool.and_false, Bool.false_eq_true, if_false, ne_eq,
            not_false_eq_true, if_true, htime, and_true, placed]
          omega
  | true =>
      have hstamp : (placed platform candidates left).stamp = none := by
        simp [placed, hl]
      cases hr : right.watermarkRecovered with
      | false =>
          have hstamp' : (placed platform candidates right).stamp = some right.entry.watermark := by
            simp [placed, hr]
          rw [Placed.le_of_stamp_right hstamp hstamp']
          simp only [Bool.not_true, Bool.false_and, Bool.false_eq_true, if_false, ne_eq,
            Bool.true_eq_false, not_false_eq_true, if_true, htime, and_false, or_false, placed]
      | true =>
          have hstamp' : (placed platform candidates right).stamp = none := by
            simp [placed, hr]
          rw [Placed.le_of_no_stamps hstamp hstamp', hplace]
          simp only [Bool.not_true, Bool.and_self, Bool.false_eq_true, if_false, ne_eq,
            not_true_eq_false, htime, hids]

/-- Of two entries with watermarks the second is no later, by its time, than one that lacks a
watermark, and the first is later than that. -/
def ClosesCircle (platform : JournalPlatform)
    (first second recovered : NormalizedJournalEntryCandidate) : Prop :=
  first.watermarkRecovered = false ∧ second.watermarkRecovered = false ∧
    recovered.watermarkRecovered = true ∧ first.entry.watermark < second.entry.watermark ∧
      platform.locale.le (normalizeRecordedAtForComparison platform second.entry.recordedAt)
        (normalizeRecordedAtForComparison platform recovered.entry.recordedAt) = true ∧
      platform.locale.le (normalizeRecordedAtForComparison platform first.entry.recordedAt)
        (normalizeRecordedAtForComparison platform recovered.entry.recordedAt) = false

instance (first second recovered : NormalizedJournalEntryCandidate) :
    Decidable (ClosesCircle platform first second recovered) :=
  inferInstanceAs (Decidable (_ ∧ _))

/-- No three of the entries are in a circle. -/
def InStep (platform : JournalPlatform) (candidates : List NormalizedJournalEntryCandidate) :
    Prop :=
  ∀ first ∈ candidates, ∀ second ∈ candidates, ∀ recovered ∈ candidates,
    ¬ ClosesCircle platform first second recovered

lemma time_le_iff (h : JournalLaws platform fallback candidates)
    (htimes : TimesRead platform fallback candidates) (hleft : left ∈ candidates)
    (hright : right ∈ candidates) :
    platform.locale.le (normalizeRecordedAtForComparison platform left.entry.recordedAt)
        (normalizeRecordedAtForComparison platform right.entry.recordedAt) = true ↔
      timeRank platform candidates left ≤ timeRank platform candidates right := by
  rw [normalizeRecordedAtForComparison_of_isRecordedTime h (htimes left hleft),
    normalizeRecordedAtForComparison_of_isRecordedTime h (htimes right hright)]
  exact locale_le_iff (List.mem_map.mpr ⟨left, hleft, rfl⟩) (List.mem_map.mpr ⟨right, hright, rfl⟩)

lemma stamp_eq_some_iff {candidate : NormalizedJournalEntryCandidate} {watermark : ℕ} :
    (placed platform candidates candidate).stamp = some watermark ↔
      candidate.watermarkRecovered = false ∧ candidate.entry.watermark = watermark := by
  cases h : candidate.watermarkRecovered <;> simp [placed, h]

lemma stamp_eq_none_iff {candidate : NormalizedJournalEntryCandidate} :
    (placed platform candidates candidate).stamp = none ↔ candidate.watermarkRecovered = true := by
  cases h : candidate.watermarkRecovered <;> simp [placed, h]

lemma closesCircle_iff (h : JournalLaws platform fallback candidates)
    (htimes : TimesRead platform fallback candidates)
    {first second recovered : NormalizedJournalEntryCandidate} (hfirst : first ∈ candidates)
    (hsecond : second ∈ candidates) (hrecovered : recovered ∈ candidates) :
    ClosesCircle platform first second recovered ↔
      Placed.Circle (placed platform candidates first) (placed platform candidates second)
        (placed platform candidates recovered) := by
  have hlater := time_le_iff h htimes hsecond hrecovered
  have hearlier := (time_le_iff h htimes hfirst hrecovered).not
  rw [Bool.not_eq_true, not_le] at hearlier
  rw [ClosesCircle, Placed.Circle, stamp_eq_none_iff, hlater, hearlier]
  constructor
  · rintro ⟨hf, hs, hr, hlt, hle, hgt⟩
    exact ⟨⟨_, _, stamp_eq_some_iff.mpr ⟨hf, rfl⟩, stamp_eq_some_iff.mpr ⟨hs, rfl⟩, hlt⟩, hr, hle,
      hgt⟩
  · rintro ⟨⟨s, t, hs, ht, hst⟩, hr, hle, hgt⟩
    obtain ⟨hf, rfl⟩ := stamp_eq_some_iff.mp hs
    obtain ⟨hs', rfl⟩ := stamp_eq_some_iff.mp ht
    exact ⟨hf, hs', hr, hst, hle, hgt⟩

/-- Entries that are in no circle are ordered by the replay. -/
theorem replay_orders (h : JournalLaws platform fallback candidates)
    (htimes : TimesRead platform fallback candidates)
    (hdistinct : CanonicalIdsDistinct platform candidates) (hstep : InStep platform candidates) :
    OrdersList (compareJournalEntryCandidateReplayOrder platform) candidates where
  total x hx y hy := by
    rw [replay_iff h htimes hdistinct hx hy, replay_iff h htimes hdistinct hy hx]
    exact Placed.le_total _ _
  trans x hx y hy z hz hxy hyz := by
    rw [replay_iff h htimes hdistinct hx hy] at hxy
    rw [replay_iff h htimes hdistinct hy hz] at hyz
    rw [replay_iff h htimes hdistinct hx hz]
    have hfree : ∀ a ∈ candidates, ∀ b ∈ candidates, ∀ r ∈ candidates,
        ¬ Placed.Circle (placed platform candidates a) (placed platform candidates b)
          (placed platform candidates r) := by
      intro a ha b hb r hr hcircle
      exact hstep a ha b hb r hr ((closesCircle_iff h htimes ha hb hr).mpr hcircle)
    exact Placed.le_trans_of_no_circle (hfree x hx y hy z hz) (hfree y hy z hz x hx)
      (hfree z hz x hx y hy) hxy hyz

/-- The replay tells the entries apart. -/
theorem replay_antisymm (h : JournalLaws platform fallback candidates)
    (htimes : TimesRead platform fallback candidates)
    (hdistinct : CanonicalIdsDistinct platform candidates) (hleft : left ∈ candidates)
    (hright : right ∈ candidates)
    (hle : compareJournalEntryCandidateReplayOrder platform left right = true)
    (hge : compareJournalEntryCandidateReplayOrder platform right left = true) : left = right := by
  rw [replay_iff h htimes hdistinct hleft hright] at hle
  rw [replay_iff h htimes hdistinct hright hleft] at hge
  have hplace := Placed.place_eq_of_le_of_le hle hge
  have hname : canonicalRank platform candidates left = canonicalRank platform candidates right :=
    congrArg (fun key => (ofLex key).2) hplace
  exact List.inj_on_of_nodup_map hdistinct hleft hright
    ((canonicalRank_eq_iff h hleft hright).mp hname)

/-- Three entries in a circle are each put before the next. -/
theorem replay_of_closesCircle (h : JournalLaws platform fallback candidates)
    (htimes : TimesRead platform fallback candidates)
    (hdistinct : CanonicalIdsDistinct platform candidates)
    {first second recovered : NormalizedJournalEntryCandidate} (hfirst : first ∈ candidates)
    (hsecond : second ∈ candidates) (hrecovered : recovered ∈ candidates)
    (hcircle : ClosesCircle platform first second recovered) :
    compareJournalEntryCandidateReplayOrder platform first second = true ∧
      compareJournalEntryCandidateReplayOrder platform second recovered = true ∧
        compareJournalEntryCandidateReplayOrder platform recovered first = true := by
  have hplaced := (closesCircle_iff h htimes hfirst hsecond hrecovered).mp hcircle
  obtain ⟨hfs, hsr, hrf⟩ := hplaced.around
  exact ⟨(replay_iff h htimes hdistinct hfirst hsecond).mpr hfs,
    (replay_iff h htimes hdistinct hsecond hrecovered).mpr hsr,
    (replay_iff h htimes hdistinct hrecovered hfirst).mpr hrf⟩

end Replay

end AgentBigBrain.Core
