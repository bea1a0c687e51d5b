import AgentBigBrain.Core.JournalSurvivors

/-!
# What normalization makes of a stored journal

The survivors are sorted for the replay and stamped above each other. Read again, the result is
reproduced, and it does not depend on the order of storage, exactly where no survivor without a
watermark closes a circle with two that have one, and where no entry goes by the canonical id of
duplicates of another.
-/
namespace AgentBigBrain.Core

open AgentBigBrain.Js AgentBigBrain.Lib

/-! ## Entries as they are read -/

section Reading

variable {platform : JournalPlatform} {fallback : String}

/-- An entry whose fields are as a read leaves them. -/
structure WellRead (platform : JournalPlatform) (fallback : String)
    (entry : ProfileMemoryMutationJournalEntry) : Prop where
  id : trimmedText entry.journalEntryId = some entry.journalEntryId
  time : IsRecordedTime platform fallback entry.recordedAt
  sourceTaskId : normalizeOptionalMetadataString entry.sourceTaskId = entry.sourceTaskId
  sourceFingerprint :
    normalizeOptionalMetadataString entry.sourceFingerprint = entry.sourceFingerprint
  mutationEnvelopeHash :
    normalizeOptionalMetadataString entry.mutationEnvelopeHash = entry.mutationEnvelopeHash
  observationIds : dedupeSortedStrings platform entry.observationIds = entry.observationIds
  claimIds : dedupeSortedStrings platform entry.claimIds = entry.claimIds
  eventIds : dedupeSortedStrings platform entry.eventIds = entry.eventIds

lemma trimmedText_of_trimmedText {text trimmed : String} (h : trimmedText text = some trimmed) :
    trimmedText trimmed = some trimmed := by
  obtain ⟨hpresent, rfl⟩ : isPresent text = true ∧ trim text = trimmed := by
    simpa [trimmedText] using h
  rw [trimmedText_trim hpresent, h]

lemma dedupeSortedStrings_idem (values : List String) :
    dedupeSortedStrings platform (dedupeSortedStrings platform values) =
      dedupeSortedStrings platform values := by
  have hperm : (dedupeSortedStrings platform values).Perm
      (uniqueValues (values.filterMap trimmedText)) := platform.locale.sort_perm _
  have htrimmed : (dedupeSortedStrings platform values).filterMap trimmedText =
      dedupeSortedStrings platform values := by
    have hall : ∀ text ∈ dedupeSortedStrings platform values, trimmedText text = some text := by
      intro text htext
      obtain ⟨value, -, hvalue⟩ : ∃ value ∈ values, trimmedText value = some text := by
        simpa using hperm.mem_iff.mp htext
      exact trimmedText_of_trimmedText hvalue
    rw [List.filterMap_congr hall, List.filterMap_some]
  have hnodup : (dedupeSortedStrings platform values).Nodup :=
    hperm.nodup_iff.mpr (nodup_uniqueValues _)
  have hsorted := platform.locale.sorted_sort (uniqueValues (values.filterMap trimmedText))
  conv_lhs => rw [dedupeSortedStrings, htrimmed, uniqueValues_of_nodup hnodup]
  exact platform.locale.sort_of_sorted hsorted

lemma trimmedText_canonicalEntryId (entry : ProfileMemoryMutationJournalEntry) :
    trimmedText (buildProfileMemoryMutationJournalCanonicalEntryId platform entry) =
      some (buildProfileMemoryMutationJournalCanonicalEntryId platform entry) := by
  have hplain : ∀ c ∈ (buildProfileMemoryMutationJournalCanonicalEntryId platform entry).toList,
      isWhitespace c = false := by
    intro c hc
    rw [canonicalEntryId_eq, String.toList_append, List.mem_append] at hc
    rcases hc with hc | hc
    · have hletters : ("journal_".toList.all fun d => !isWhitespace d) = true := by decide
      simpa using List.all_eq_true.mp hletters c hc
    · exact isWhitespace_of_isHexDigit (hex_of_mem_slice hc)
  have htrim := trim_of_no_whitespace hplain
  have hne : buildProfileMemoryMutationJournalCanonicalEntryId platform entry ≠ "" := by
    intro hempty
    have hlist := congrArg String.toList hempty
    rw [canonicalEntryId_eq, String.toList_append] at hlist
    simp at hlist
  simp [trimmedText, isPresent, htrim, hne]

lemma isRecordedTime_normalizeRequired (value : Option Json) :
    IsRecordedTime platform fallback (normalizeRequiredRecordedAt platform value fallback) := by
  unfold normalizeRequiredRecordedAt
  cases textOf value with
  | none => exact .inr rfl
  | some text =>
      dsimp only
      cases hparse : platform.dateParse (trim text) with
      | none => exact .inr rfl
      | some ms => exact .inl ⟨trim text, ms, hparse, rfl⟩

lemma exists_of_read {raw : Json} {candidate : NormalizedJournalEntryCandidate}
    (h : readJournalEntry platform fallback raw = some candidate) :
    ∃ members state, readJournalMembers platform fallback members state = candidate := by
  obtain ⟨members, -, hmembers⟩ := Option.bind_eq_some_iff.mp h
  obtain ⟨state, -, hread⟩ := Option.map_eq_some_iff.mp hmembers
  exact ⟨members, state, hread⟩

/-- What a read leaves is as a read leaves it. -/
lemma wellRead_of_read {raw : Json} {candidate : NormalizedJournalEntryCandidate}
    (h : readJournalEntry platform fallback raw = some candidate) :
    WellRead platform fallback candidate.entry := by
  obtain ⟨members, state, rfl⟩ := exists_of_read h
  refine ⟨?_, isRecordedTime_normalizeRequired _, normalizeOptionalMetadataString_idem _,
    normalizeOptionalMetadataString_idem _, normalizeOptionalMetadataString_idem _,
    dedupeSortedStrings_idem _, dedupeSortedStrings_idem _, dedupeSortedStrings_idem _⟩
  dsimp only [readJournalMembers]
  cases hid : normalizeRequiredMetadataString (members.lookup "journalEntryId") with
  | none => exact trimmedText_canonicalEntryId _
  | some id =>
      obtain ⟨text, -, htext⟩ := Option.bind_eq_some_iff.mp hid
      exact trimmedText_of_trimmedText htext

lemma recovered_of_read {raw : Json} {candidate : NormalizedJournalEntryCandidate}
    (h : readJournalEntry platform fallback raw = some candidate) :
    candidate.watermarkRecovered = true ↔ candidate.entry.watermark = 0 := by
  obtain ⟨members, state, rfl⟩ := exists_of_read h
  change (positiveOf (members.lookup "watermark")).isNone = true ↔
    (positiveOf (members.lookup "watermark")).getD 0 = 0
  cases hwatermark : positiveOf (members.lookup "watermark") with
  | none => simp
  | some watermark =>
      have hpositive : 0 < watermark := by
        simpa using (Option.filter_eq_some_iff.mp hwatermark).2
      simp [hpositive.ne']

lemma normalizeRequiredRecordedAt_of_isRecordedTime
    {candidates : List NormalizedJournalEntryCandidate}
    (h : JournalLaws platform fallback candidates) {time : String}
    (htime : IsRecordedTime platform fallback time) :
    normalizeRequiredRecordedAt platform (some (.str time)) fallback = time := by
  have hsame := normalizeRecordedAtForComparison_of_isRecordedTime h htime
  simp only [normalizeRequiredRecordedAt, textOf_str]
  cases hparse : platform.dateParse (trim time) with
  | some ms => simpa [normalizeRecordedAtForComparison, hparse] using hsame
  | none =>
      rcases htime with ⟨text, ms, htext, rfl⟩ | rfl
      · rw [h.trim_toISOString text ms htext, h.parse_toISOString text ms htext] at hparse
        cases hparse
      · rfl

/-- A saved entry whose fields are as a read leaves them is read back as it is. -/
theorem read_toJson {candidates : List NormalizedJournalEntryCandidate}
    (h : JournalLaws platform fallback candidates) {entry : ProfileMemoryMutationJournalEntry}
    (hread : WellRead platform fallback entry) (hpositive : 0 < entry.watermark) :
    readJournalEntry platform fallback entry.toJson = some ⟨entry, false⟩ := by
  have hwatermark : positiveOf (entry.members.lookup "watermark") = some entry.watermark :=
    positiveOf_countJson hpositive
  have hid : normalizeRequiredMetadataString (entry.members.lookup "journalEntryId") =
      some entry.journalEntryId := hread.id
  have htime : normalizeRequiredRecordedAt platform (entry.members.lookup "recordedAt") fallback =
      entry.recordedAt := normalizeRequiredRecordedAt_of_isRecordedTime h hread.time
  have htext : ∀ (key : String) (text : Option String),
      entry.members.lookup key = some (textOrNull text) →
        normalizeOptionalMetadataString text = text →
          normalizeOptionalMetadataString (textOf (entry.members.lookup key)) = text := by
    intro key text hkey htrimmed
    rw [hkey, textOf_textOrNull, htrimmed]
  have hids : ∀ (key : String) (ids : List String),
      entry.members.lookup key = some (textArray ids) →
        dedupeSortedStrings platform ids = ids →
          dedupeSortedStrings platform (textElements (entry.members.lookup key)) = ids := by
    intro key ids hkey hsorted
    rw [hkey, textElements_textArray, hsorted]
  have hstate : readRedactionState (entry.members.lookup "redactionState") =
      some entry.redactionState := readRedactionState_text entry.redactionState
  have hmembers : readJournalEntry platform fallback entry.toJson =
      some (readJournalMembers platform fallback entry.members entry.redactionState) := by
    simp only [readJournalEntry, ProfileMemoryMutationJournalEntry.toJson, membersOf_obj,
      Option.bind_some, hstate, Option.map_some]
  rw [hmembers]
  simp only [readJournalMembers, withCanonicalEntryId, hwatermark, hid, htime, Option.getD_some,
    Option.isNone_some, htext "sourceTaskId" entry.sourceTaskId rfl hread.sourceTaskId,
    htext "sourceFingerprint" entry.sourceFingerprint rfl hread.sourceFingerprint,
    htext "mutationEnvelopeHash" entry.mutationEnvelopeHash rfl hread.mutationEnvelopeHash,
    hids "observationIds" entry.observationIds rfl hread.observationIds,
    hids "claimIds" entry.claimIds rfl hread.claimIds,
    hids "eventIds" entry.eventIds rfl hread.eventIds]

end Reading

/-! ## The claim about a stored journal -/

section Property

variable (platform : JournalPlatform) (fallback : String)

/-- The entries of a stored journal, as they are read. -/
def storedEntries (entries : List Json) : List NormalizedJournalEntryCandidate :=
  entries.filterMap (readJournalEntry platform fallback)

/-- A stored journal with these entries. -/
def persistedJournal (rest : List (String × Json)) (entries : List Json) : Json :=
  .obj (("entries", .arr entries) :: rest)

def normalizedJournal (rest : List (String × Json)) (entries : List Json) :
    ProfileMemoryMutationJournalState :=
  normalizeProfileMemoryMutationJournalState platform (some (persistedJournal rest entries))
    fallback

/-- Every entry of the result comes from a survivor, every survivor is in the result as one that
records the same, and survivors with watermarks of their own are in the order of these. -/
def KeepsReplayOrder (candidates : List NormalizedJournalEntryCandidate)
    (entries : List ProfileMemoryMutationJournalEntry) : Prop :=
  ∃ originals : List NormalizedJournalEntryCandidate,
    (∀ original ∈ originals, Survives platform candidates original) ∧
    (∀ survivor, Survives platform candidates survivor → ∃ original ∈ originals,
      canonicalIdOf platform original = canonicalIdOf platform survivor) ∧
    List.Forall₂ (fun original entry => RecordsSame original.entry entry) originals entries ∧
    originals.Pairwise fun left right =>
      left.watermarkRecovered = false → right.watermarkRecovered = false →
        left.entry.watermark ≠ right.entry.watermark →
          left.entry.watermark < right.entry.watermark

structure NormalizesWell (rest : List (String × Json)) (entries : List Json) : Prop where
  increasing : (normalizedJournal platform fallback rest entries).entries.Pairwise
    fun left right => left.watermark < right.watermark
  distinct_ids :
    ((normalizedJournal platform fallback rest entries).entries.map (·.journalEntryId)).Nodup
  in_order : KeepsReplayOrder platform (storedEntries platform fallback entries)
    (normalizedJournal platform fallback rest entries).entries
  any_order : ∀ entries' : List Json, entries.Perm entries' →
    normalizedJournal platform fallback rest entries' =
      normalizedJournal platform fallback rest entries
  idempotent : normalizeProfileMemoryMutationJournalState platform
    (some (normalizedJournal platform fallback rest entries).toJson) fallback =
      normalizedJournal platform fallback rest entries

/-- No entry that is alone goes by the canonical id of entries of several ids, and no three
survivors are in a circle. -/
structure Orderly (candidates : List NormalizedJournalEntryCandidate) : Prop where
  no_clash : ∀ left right other, FreshestOfId platform candidates left →
    FreshestOfId platform candidates right → FreshestOfId platform candidates other →
      left.entry.journalEntryId ≠ right.entry.journalEntryId →
        canonicalIdOf platform left = canonicalIdOf platform right →
          Alone platform candidates other →
            other.entry.journalEntryId ≠ canonicalIdOf platform left
  in_step : ∀ first second recovered, Survives platform candidates first →
    Survives platform candidates second → Survives platform candidates recovered →
      ¬ ClosesCircle platform first second recovered

end Property

/-! ## Survivors in order -/

section Order

variable {platform : JournalPlatform} {fallback : String}
  {candidates : List NormalizedJournalEntryCandidate}

lemma readEntries_stored {entries : List Json}
    (h : JournalLaws platform fallback (storedEntries platform fallback entries)) :
    ReadEntries platform fallback (storedEntries platform fallback entries) where
  laws := h
  times candidate hcandidate := by
    obtain ⟨raw, -, hread⟩ := List.mem_filterMap.mp hcandidate
    exact (wellRead_of_read hread).time
  recovered candidate hcandidate := by
    obtain ⟨raw, -, hread⟩ := List.mem_filterMap.mp hcandidate
    exact recovered_of_read hread

lemma journalPayload_standsFor {original kept : NormalizedJournalEntryCandidate}
    (h : StandsFor original kept) : journalPayload kept.entry = journalPayload original.entry := by
  rw [h.2]
  rfl

/-- What is left is again as it is read. -/
lemma ReadEntries.dedupe (h : ReadEntries platform fallback candidates) :
    ReadEntries platform fallback (dedupeJournalEntries platform candidates) where
  laws :=
    { h.laws with
      digests_apart := by
        intro left hleft right hright hdigests
        obtain ⟨original, horiginal, hkept⟩ := mem_representatives hleft
        obtain ⟨original', horiginal', hkept'⟩ := mem_representatives hright
        rw [journalPayload_standsFor hkept, journalPayload_standsFor hkept'] at hdigests ⊢
        exact h.laws.digests_apart original horiginal original' horiginal' hdigests }
  times candidate hcandidate := by
    obtain ⟨original, horiginal, hkept⟩ := mem_representatives hcandidate
    rw [hkept.2]
    exact h.times original horiginal
  recovered candidate hcandidate := by
    obtain ⟨original, horiginal, hkept⟩ := mem_representatives hcandidate
    rw [hkept.1, hkept.watermark]
    exact h.recovered original horiginal

lemma closesCircle_standsFor {first second recovered first' second' recovered' :
      NormalizedJournalEntryCandidate} (hfirst : StandsFor first first')
    (hsecond : StandsFor second second') (hrecovered : StandsFor recovered recovered') :
    ClosesCircle platform first' second' recovered' ↔
      ClosesCircle platform first second recovered := by
  rw [ClosesCircle, ClosesCircle, hfirst.1, hsecond.1, hrecovered.1, hfirst.2, hsecond.2,
    hrecovered.2]

/-- Every survivor is left as an entry that stands for it. -/
lemma ReadEntries.exists_kept (h : ReadEntries platform fallback candidates)
    {survivor : NormalizedJournalEntryCandidate}
    (hsurvives : Survives platform candidates survivor) :
    ∃ kept ∈ dedupeJournalEntries platform candidates, StandsFor survivor kept := by
  by_cases halone : Alone platform candidates survivor
  · have hkept : KeptAs platform candidates survivor survivor := .inl ⟨halone, rfl⟩
    exact ⟨_, h.mem_dedupe_iff.mpr ⟨survivor, hsurvives, hkept⟩, hkept.standsFor⟩
  · have hkept : KeptAs platform candidates survivor
        { survivor with entry := withCanonicalEntryId platform survivor.entry } :=
      .inr ⟨halone, rfl⟩
    exact ⟨_, h.mem_dedupe_iff.mpr ⟨survivor, hsurvives, hkept⟩, hkept.standsFor⟩

/-- Survivors are in step exactly where what is left of them is. -/
lemma ReadEntries.inStep_dedupe_iff (h : ReadEntries platform fallback candidates) :
    InStep platform (dedupeJournalEntries platform candidates) ↔
      ∀ first second recovered, Survives platform candidates first →
        Survives platform candidates second → Survives platform candidates recovered →
          ¬ ClosesCircle platform first second recovered := by
  constructor
  · intro hstep first second recovered hfirst hsecond hrecovered hcircle
    obtain ⟨first', hfirst', hf⟩ := h.exists_kept hfirst
    obtain ⟨second', hsecond', hs⟩ := h.exists_kept hsecond
    obtain ⟨recovered', hrecovered', hr⟩ := h.exists_kept hrecovered
    exact hstep first' hfirst' second' hsecond' recovered' hrecovered'
      ((closesCircle_standsFor hf hs hr).mpr hcircle)
  · intro hfree first' hfirst' second' hsecond' recovered' hrecovered' hcircle
    obtain ⟨first, hfirst, hf⟩ := h.mem_dedupe_iff.mp hfirst'
    obtain ⟨second, hsecond, hs⟩ := h.mem_dedupe_iff.mp hsecond'
    obtain ⟨recovered, hrecovered, hr⟩ := h.mem_dedupe_iff.mp hrecovered'
    exact hfree first second recovered hfirst hsecond hrecovered
      ((closesCircle_standsFor hf.standsFor hs.standsFor hr.standsFor).mp hcircle)

/-! ### Distinct ids -/

lemma ReadEntries.freshest_unique (h : ReadEntries platform fallback candidates)
    {left right : NormalizedJournalEntryCandidate} (hleft : FreshestOfId platform candidates left)
    (hright : FreshestOfId platform candidates right)
    (hid : left.entry.journalEntryId = right.entry.journalEntryId) : left = right := by
  have hle := (h.freshness_iff hleft.1 hright.1).mp (hright.2 left hleft.1 hid)
  have hge := (h.freshness_iff hright.1 hleft.1).mp (hleft.2 right hright.1 hid.symm)
  exact h.eq_of_freshnessKey_eq hleft.1 hright.1 (le_antisymm hle hge) hid

/-- What any freshest entry of an id records survives. -/
lemma ReadEntries.exists_survivor (h : ReadEntries platform fallback candidates)
    {candidate : NormalizedJournalEntryCandidate}
    (hcandidate : FreshestOfId platform candidates candidate) :
    ∃ survivor, Survives platform candidates survivor ∧
      canonicalIdOf platform survivor = canonicalIdOf platform candidate := by
  let groups := groupsByCanonicalPayload platform
  have hkey : canonicalIdOf platform candidate ∈
      (canonicalGroups platform candidates).map groups.key := by
    refine (groups.mem_keys_collect [] _).mpr (.inr ?_)
    have hmem := h.mem_collect_iff.mpr hcandidate
    exact List.mem_map.mpr ⟨⟨candidate, 1⟩, List.mem_map_of_mem hmem, rfl⟩
  obtain ⟨group, hgroup, hid⟩ := List.mem_map.mp hkey
  exact ⟨group.candidate, h.survives_of_group hgroup, hid⟩

lemma ReadEntries.survives_of_alone (h : ReadEntries platform fallback candidates)
    {candidate : NormalizedJournalEntryCandidate}
    (hcandidate : FreshestOfId platform candidates candidate)
    (halone : Alone platform candidates candidate) : Survives platform candidates candidate := by
  refine ⟨hcandidate, fun other hother hid => ?_⟩
  rw [halone other hother hid]
  exact (h.freshness_iff hcandidate.1 hcandidate.1).mpr le_rfl

/-- Ids are distinct exactly where no entry that is alone goes by the canonical id of others. -/
theorem ReadEntries.ids_nodup_iff (h : ReadEntries platform fallback candidates) :
    ((dedupeJournalEntries platform candidates).map (·.entry.journalEntryId)).Nodup ↔
      ∀ left right other, FreshestOfId platform candidates left →
        FreshestOfId platform candidates right → FreshestOfId platform candidates other →
          left.entry.journalEntryId ≠ right.entry.journalEntryId →
            canonicalIdOf platform left = canonicalIdOf platform right →
              Alone platform candidates other →
                other.entry.journalEntryId ≠ canonicalIdOf platform left := by
  constructor
  · intro hnodup left right other hleft hright hother hne hsame halone hclash
    obtain ⟨survivor, hsurvives, hcanonical⟩ := h.exists_survivor hleft
    have hcrowd : ¬ Alone platform candidates survivor := by
      intro halone'
      have hl := halone' left hleft hcanonical.symm
      have hr := halone' right hright (hsame.symm.trans hcanonical.symm)
      exact hne (by rw [hl, hr])
    have hotherKept := h.mem_dedupe_iff.mpr
      ⟨other, h.survives_of_alone hother halone, .inl ⟨halone, rfl⟩⟩
    have hcrowdKept := h.mem_dedupe_iff.mpr ⟨survivor, hsurvives, .inr ⟨hcrowd, rfl⟩⟩
    have hids : other.entry.journalEntryId =
        (withCanonicalEntryId platform survivor.entry).journalEntryId :=
      hclash.trans hcanonical.symm
    have hequal := List.inj_on_of_nodup_map hnodup hotherKept hcrowdKept hids
    have hotherCanonical : canonicalIdOf platform other = canonicalIdOf platform survivor := by
      rw [hequal]
      rfl
    exact hcrowd ((halone survivor hsurvives.1 hotherCanonical.symm) ▸ halone)
  · intro hfree
    refine (List.nodup_map_iff_inj_on (List.Nodup.of_map _ h.canonicalIdsDistinct_dedupe)).mpr ?_
    -- An alone entry and duplicates under its id are what `hfree` excludes.
    have hmixed : ∀ x y : NormalizedJournalEntryCandidate, Survives platform candidates x →
        Alone platform candidates x → Survives platform candidates y →
          ¬ Alone platform candidates y → x.entry.journalEntryId ≠ canonicalIdOf platform y := by
      intro x y hx halone hy hcrowd
      unfold Alone at hcrowd
      push Not at hcrowd
      obtain ⟨other, hother, hcanonical, hne⟩ := hcrowd
      have hids : y.entry.journalEntryId ≠ other.entry.journalEntryId := fun hid =>
        hne (h.freshest_unique hy.1 hother hid).symm
      exact hfree y other x hy.1 hother hx.1 hids hcanonical.symm halone
    intro left hleft right hright hid
    obtain ⟨x, hx, hxkept⟩ := h.mem_dedupe_iff.mp hleft
    obtain ⟨y, hy, hykept⟩ := h.mem_dedupe_iff.mp hright
    rcases hxkept with ⟨hxa, rfl⟩ | ⟨hxc, rfl⟩
    · rcases hykept with ⟨hya, rfl⟩ | ⟨hyc, rfl⟩
      · exact h.freshest_unique hx.1 hy.1 hid
      · exact absurd hid (hmixed left y hx hxa hy hyc)
    · rcases hykept with ⟨hya, rfl⟩ | ⟨hyc, rfl⟩
      · exact absurd hid.symm (hmixed right x hy hya hx hxc)
      · exact h.keptAs_unique hx hy hid (.inr ⟨hxc, rfl⟩) (.inr ⟨hyc, rfl⟩)

/-! ### The order of the result -/

lemma restamp_ids (kept : List NormalizedJournalEntryCandidate) (previous : ℕ) :
    (restamp previous kept).map (·.journalEntryId) = kept.map (·.entry.journalEntryId) := by
  induction kept generalizing previous with
  | nil => rfl
  | cons candidate rest ih => simp only [restamp, List.map_cons, ih]

lemma restamp_records (kept : List NormalizedJournalEntryCandidate) (previous : ℕ) :
    List.Forall₂ (fun candidate entry => RecordsSame candidate.entry entry) kept
      (restamp previous kept) := by
  induction kept generalizing previous with
  | nil => exact List.Forall₂.nil
  | cons candidate rest ih => exact List.Forall₂.cons rfl (ih _)

lemma exists_of_mem_restamp {kept : List NormalizedJournalEntryCandidate} {previous : ℕ}
    {entry : ProfileMemoryMutationJournalEntry} (h : entry ∈ restamp previous kept) :
    ∃ candidate ∈ kept, candidate.entry.journalEntryId = entry.journalEntryId ∧
      RecordsSame candidate.entry entry := by
  induction kept generalizing previous with
  | nil => exact absurd h List.not_mem_nil
  | cons candidate rest ih =>
      rcases List.mem_cons.mp h with rfl | h
      · exact ⟨candidate, List.mem_cons_self, rfl, rfl⟩
      · obtain ⟨later, hlater, hsame⟩ := ih h
        exact ⟨later, List.mem_cons_of_mem candidate hlater, hsame⟩

lemma RecordsSame.of_standsFor {original kept : NormalizedJournalEntryCandidate}
    (h : StandsFor original kept) {entry : ProfileMemoryMutationJournalEntry}
    (hentry : RecordsSame kept.entry entry) : RecordsSame original.entry entry := by
  rw [RecordsSame, h.2] at hentry
  exact hentry

lemma watermark_lt_of_replay {left right : NormalizedJournalEntryCandidate}
    (h : compareJournalEntryCandidateReplayOrder platform left right = true)
    (hleft : left.watermarkRecovered = false) (hright : right.watermarkRecovered = false)
    (hne : left.entry.watermark ≠ right.entry.watermark) :
    left.entry.watermark < right.entry.watermark := by
  simp only [compareJournalEntryCandidateReplayOrder, hleft, hright, Bool.not_false, Bool.and_self,
    if_true, compareJournalEntryReplayOrder, if_pos hne, decide_eq_true_eq] at h
  omega

/-- Survivors that are in step are replayed in the order of their watermarks. -/
theorem ReadEntries.keepsReplayOrder (h : ReadEntries platform fallback candidates)
    (hstep : InStep platform (dedupeJournalEntries platform candidates)) :
    KeepsReplayOrder platform candidates (normalizeJournalEntries platform candidates) := by
  let deduped := dedupeJournalEntries platform candidates
  let sorted := platform.hostSort.sort (compareJournalEntryCandidateReplayOrder platform) deduped
  have horders := replay_orders h.dedupe.laws h.dedupe.times h.canonicalIdsDistinct_dedupe hstep
  have hsorted := platform.hostSort.pairwise_sort horders
  have hmem : ∀ kept, kept ∈ sorted ↔ kept ∈ deduped := fun kept => platform.hostSort.mem_sort
  have hkept : ∀ kept ∈ sorted, ∃ original, Survives platform candidates original ∧
      KeptAs platform candidates original kept :=
    fun kept hkept => h.mem_dedupe_iff.mp ((hmem kept).mp hkept)
  choose! original hsurvive hkeptAs using hkept
  refine ⟨sorted.map original, ?_, ?_, ?_, ?_⟩
  · intro candidate hcandidate
    obtain ⟨kept, hkept, rfl⟩ := List.mem_map.mp hcandidate
    exact hsurvive kept hkept
  · intro survivor hsurvivor
    obtain ⟨kept, hkept, hstands⟩ := h.exists_kept hsurvivor
    have hin := (hmem kept).mpr hkept
    refine ⟨original kept, List.mem_map_of_mem hin, ?_⟩
    rw [← canonicalIdOf_standsFor (hkeptAs kept hin).standsFor, canonicalIdOf_standsFor hstands]
  · have hrecords := restamp_records sorted 0
    refine List.forall₂_map_left_iff.mpr
      (List.forall₂_iff_zip.mpr ⟨hrecords.length_eq, fun {kept entry} hpair => ?_⟩)
    have hin : kept ∈ sorted := (List.of_mem_zip hpair).1
    exact RecordsSame.of_standsFor (hkeptAs kept hin).standsFor
      (List.forall₂_zip hrecords hpair)
  · refine List.pairwise_map.mpr (hsorted.imp_of_mem fun {left right} hleft hright hle => ?_)
    have hl := (hkeptAs left hleft).standsFor
    have hr := (hkeptAs right hright).standsFor
    rw [← hl.1, ← hr.1, ← hl.watermark, ← hr.watermark]
    exact watermark_lt_of_replay hle

/-- Survivors that are in step are replayed in one order, whatever the order of storage. -/
theorem ReadEntries.normalize_perm (h : ReadEntries platform fallback candidates)
    (hstep : InStep platform (dedupeJournalEntries platform candidates))
    {others : List NormalizedJournalEntryCandidate} (hperm : candidates.Perm others) :
    normalizeJournalEntries platform candidates = normalizeJournalEntries platform others := by
  have hdistinct := h.canonicalIdsDistinct_dedupe
  have horders := replay_orders h.dedupe.laws h.dedupe.times hdistinct hstep
  have hsame := platform.hostSort.sort_eq_of_perm horders (h.dedupe_perm hperm)
    fun left hleft right hright hle hge =>
      replay_antisymm h.dedupe.laws h.dedupe.times hdistinct hleft hright hle hge
  rw [normalizeJournalEntries, hsame]
  rfl

/-! ### Reading the result -/

/-- What is left of entries that all differ, in ids and in what they record, is all of them. -/
lemma dedupe_of_distinct {candidates : List NormalizedJournalEntryCandidate}
    (hids : (candidates.map (·.entry.journalEntryId)).Nodup)
    (hcanonical : CanonicalIdsDistinct platform candidates) :
    dedupeJournalEntries platform candidates = candidates := by
  have hfirst : (candidatesById platform).collect [] candidates = candidates :=
    (candidatesById platform).collect_nil_of_distinct hids
  have hsecond : canonicalGroups platform candidates =
      candidates.map fun candidate => ⟨candidate, 1⟩ := by
    rw [canonicalGroups, hfirst]
    refine (groupsByCanonicalPayload platform).collect_nil_of_distinct ?_
    rw [KeyedMerge.Distinct, List.map_map]
    exact hcanonical
  rw [dedupeJournalEntries_eq, hsecond, List.map_map]
  exact List.map_id _

/-- Entries that are as a read leaves them stay so under another watermark. -/
lemma WellRead.restamp {left right : ProfileMemoryMutationJournalEntry}
    (h : WellRead platform fallback left) (hid : left.journalEntryId = right.journalEntryId)
    (hsame : RecordsSame left right) : WellRead platform fallback right := by
  rw [← hsame, ← hid]
  exact ⟨h.id, h.time, h.sourceTaskId, h.sourceFingerprint, h.mutationEnvelopeHash,
    h.observationIds, h.claimIds, h.eventIds⟩

/-- A result whose ids and records differ is read back as it is. -/
theorem normalize_saved (h : JournalLaws platform fallback candidates)
    {state : ProfileMemoryMutationJournalState} (hstamped : Stamped state)
    (hread : ∀ entry ∈ state.entries, WellRead platform fallback entry)
    (hids : (state.entries.map (·.journalEntryId)).Nodup)
    (hcanonical : (state.entries.map
      (buildProfileMemoryMutationJournalCanonicalEntryId platform)).Nodup) :
    normalizeProfileMemoryMutationJournalState platform (some state.toJson) fallback = state := by
  let saved : List NormalizedJournalEntryCandidate := state.entries.map fun entry => ⟨entry, false⟩
  have hsaved : savedCandidates platform fallback state.entries = saved := by
    rw [savedCandidates, List.filterMap_map]
    have hall : ∀ entry ∈ state.entries, (readJournalEntry platform fallback ∘
        ProfileMemoryMutationJournalEntry.toJson) entry = some ⟨entry, false⟩ :=
      fun entry hentry => read_toJson h (hread entry hentry) (hstamped.positive entry hentry)
    rw [List.filterMap_congr hall]
    exact congrFun List.filterMap_eq_map' state.entries
  have hkept : dedupeJournalEntries platform saved = saved := by
    refine dedupe_of_distinct ?_ ?_
    · rw [List.map_map]
      exact hids
    · rw [CanonicalIdsDistinct, List.map_map]
      exact hcanonical
  have hsorted : ((numberOrder ℕ).byKey fun candidate : NormalizedJournalEntryCandidate =>
      candidate.entry.watermark).Sorted saved := by
    refine List.pairwise_map.mpr (hstamped.increasing.imp fun hlt => ?_)
    exact decide_eq_true (le_of_lt hlt)
  have hentries : normalizeJournalEntries platform saved = state.entries := by
    have hnormalized := @normalize_savedCandidates platform fallback state.entries
      hstamped.positive hstamped.watermarks_nodup
    rw [hsaved, hkept, Comparator.sort_of_sorted _ hsorted, List.map_map] at hnormalized
    rw [hnormalized]
    exact List.map_id _
  have hnext := (normalize_toJson platform hstamped fallback).1
  have hlist : (normalizeProfileMemoryMutationJournalState platform (some state.toJson)
      fallback).entries = state.entries := by
    rw [← hentries, ← hsaved]
    rfl
  cases hresult : normalizeProfileMemoryMutationJournalState platform (some state.toJson) fallback
    with
  | mk nextWatermark entries =>
      rw [hresult] at hnext hlist
      dsimp only at hnext hlist
      rw [hnext, hlist]

end Order

/-! ## Where normalization is as claimed -/

section Main

variable {platform : JournalPlatform} {fallback : String} {rest : List (String × Json)}
  {entries : List Json}

lemma normalizedJournal_entries : (normalizedJournal platform fallback rest entries).entries =
    normalizeJournalEntries platform (storedEntries platform fallback entries) := rfl

lemma normalizedJournal_congr {entries' : List Json}
    (h : normalizeJournalEntries platform (storedEntries platform fallback entries') =
      normalizeJournalEntries platform (storedEntries platform fallback entries)) :
    normalizedJournal platform fallback rest entries' =
      normalizedJournal platform fallback rest entries := by
  have hstate : ∀ es, normalizedJournal platform fallback rest es =
      ⟨((positiveOf (rest.lookup "nextWatermark")).filter (highestWatermark
          (normalizeJournalEntries platform (storedEntries platform fallback es)) < ·)).getD
            (highestWatermark
              (normalizeJournalEntries platform (storedEntries platform fallback es)) + 1),
        normalizeJournalEntries platform (storedEntries platform fallback es)⟩ := fun _ => rfl
  rw [hstate, hstate, h]

lemma sorted_perm (candidates : List NormalizedJournalEntryCandidate) :
    (platform.hostSort.sort (compareJournalEntryCandidateReplayOrder platform)
      (dedupeJournalEntries platform candidates)).Perm
        (dedupeJournalEntries platform candidates) :=
  platform.hostSort.perm _ _

/-- The ids of the result are those of what is left of the survivors. -/
lemma ids_perm (candidates : List NormalizedJournalEntryCandidate) :
    ((normalizeJournalEntries platform candidates).map (·.journalEntryId)).Perm
      ((dedupeJournalEntries platform candidates).map (·.entry.journalEntryId)) := by
  rw [normalizeJournalEntries, restamp_ids]
  exact (sorted_perm candidates).map _

lemma canonicalIds_restamp (kept : List NormalizedJournalEntryCandidate) (previous : ℕ) :
    (restamp previous kept).map (buildProfileMemoryMutationJournalCanonicalEntryId platform) =
      kept.map (canonicalIdOf platform) := by
  induction kept generalizing previous with
  | nil => rfl
  | cons candidate rest ih =>
      simp only [restamp, List.map_cons, ih]
      rfl

lemma wellRead_kept (h : JournalLaws platform fallback (storedEntries platform fallback entries))
    {kept : NormalizedJournalEntryCandidate}
    (hkept : kept ∈ dedupeJournalEntries platform (storedEntries platform fallback entries)) :
    WellRead platform fallback kept.entry := by
  obtain ⟨original, hsurvives, hkeptAs⟩ := (readEntries_stored h).mem_dedupe_iff.mp hkept
  obtain ⟨raw, -, hraw⟩ := List.mem_filterMap.mp hsurvives.1.1
  have hread := wellRead_of_read hraw
  rcases hkeptAs with ⟨-, rfl⟩ | ⟨-, rfl⟩
  · exact hread
  · exact { hread with id := trimmedText_canonicalEntryId original.entry }

theorem normalizesWell_of_orderly
    (h : JournalLaws platform fallback (storedEntries platform fallback entries))
    (horderly : Orderly platform (storedEntries platform fallback entries)) :
    NormalizesWell platform fallback rest entries := by
  have hread := readEntries_stored h
  have hstep := hread.inStep_dedupe_iff.mpr horderly.in_step
  have hstamped : Stamped (normalizedJournal platform fallback rest entries) :=
    stamped_normalize platform _ fallback
  have hids : ((normalizedJournal platform fallback rest entries).entries.map
      (·.journalEntryId)).Nodup :=
    (ids_perm _).nodup_iff.mpr (hread.ids_nodup_iff.mpr horderly.no_clash)
  refine ⟨hstamped.increasing, hids, hread.keepsReplayOrder hstep, ?_, ?_⟩
  · intro entries' hperm
    exact normalizedJournal_congr (hread.normalize_perm hstep (hperm.filterMap _)).symm
  · refine normalize_saved h hstamped ?_ hids ?_
    · intro entry hentry
      obtain ⟨kept, hkept, hid, hsame⟩ := exists_of_mem_restamp hentry
      exact (wellRead_kept h (platform.hostSort.mem_sort.mp hkept)).restamp hid hsame
    · rw [normalizedJournal_entries, normalizeJournalEntries, canonicalIds_restamp]
      exact ((sorted_perm _).map _).nodup_iff.mpr hread.canonicalIdsDistinct_dedupe

/-! ### Where it is not -/

/-- A host that sorts by insertion shows a circle. -/
lemma inStep_of_any_order
    (h : JournalLaws platform fallback (storedEntries platform fallback entries))
    (hhost : platform.hostSort = .insertion)
    (hany : ∀ entries' : List Json, entries.Perm entries' →
      normalizedJournal platform fallback rest entries' =
        normalizedJournal platform fallback rest entries) :
    InStep platform (dedupeJournalEntries platform (storedEntries platform fallback entries)) := by
  let candidates := storedEntries platform fallback entries
  let le := compareJournalEntryCandidateReplayOrder platform
  have hread : ReadEntries platform fallback candidates := readEntries_stored h
  have hdistinct := hread.canonicalIdsDistinct_dedupe
  intro first hfirst second hsecond recovered hrecovered hcircle
  obtain ⟨hfs, hsr, hrf⟩ := replay_of_closesCircle hread.dedupe.laws hread.dedupe.times hdistinct
    hfirst hsecond hrecovered hcircle
  obtain ⟨hf, hs, hr, hlt, -⟩ := hcircle
  -- The three are different, so they can be brought to the end in any order.
  have hthree : [first, second, recovered].Nodup := by
    have hfs' : first ≠ second := fun heq => by rw [heq] at hlt; exact lt_irrefl _ hlt
    have hfr' : first ≠ recovered := fun heq => by rw [heq, hr] at hf; cases hf
    have hsr' : second ≠ recovered := fun heq => by rw [heq, hr] at hs; cases hs
    simp [hfs', hfr', hsr']
  obtain ⟨front, hfront⟩ := exists_perm_append_of_subset hthree
    (show [first, second, recovered] ⊆ dedupeJournalEntries platform candidates by
      simp [hfirst, hsecond, hrecovered, candidates])
  have hnormalized : ∀ kept : List NormalizedJournalEntryCandidate,
      kept.Perm (dedupeJournalEntries platform candidates) →
        restamp 0 (HostSort.insertion.sort le kept) =
          normalizeJournalEntries platform candidates := by
    intro kept hkept
    obtain ⟨front', rest', hperm, hdedupe⟩ := hread.exists_order hkept
    obtain ⟨entries', hentries, hstored⟩ := exists_perm_of_filterMap_perm hperm
    have hsame := congrArg (·.entries) (hany entries' hentries)
    rw [normalizedJournal_entries, normalizedJournal_entries, storedEntries, hstored,
      normalizeJournalEntries, hdedupe, hhost] at hsame
    exact hsame
  have hkept : (front ++ [first, second, recovered]).Perm
      (dedupeJournalEntries platform candidates) :=
    (hfront.trans List.perm_append_comm).symm
  have hkept' : (front ++ [recovered, first, second]).Perm
      (dedupeJournalEntries platform candidates) := by
    refine List.Perm.trans (List.Perm.append_left front ?_) hkept
    exact @List.perm_append_comm _ [recovered] [first, second]
  have hcanonical := congrArg
    (List.map (buildProfileMemoryMutationJournalCanonicalEntryId platform))
    ((hnormalized _ hkept).trans (hnormalized _ hkept').symm)
  rw [canonicalIds_restamp, canonicalIds_restamp] at hcanonical
  have hnodup : CanonicalIdsDistinct platform (front ++ [first, second, recovered]) :=
    (hkept.map _).nodup_iff.mpr hdistinct
  have hsorts : HostSort.insertion.sort le (front ++ [first, second, recovered]) =
      HostSort.insertion.sort le (front ++ [recovered, first, second]) := by
    refine eq_of_perm_of_map_eq ?_ hcanonical ?_
    · exact ((HostSort.insertion.perm le _).trans (hkept.trans hkept'.symm)).trans
        (HostSort.insertion.perm le _).symm
    · exact (((HostSort.insertion.perm le _).trans (hkept'.trans hkept.symm)).map
        _).nodup_iff.mpr hnodup
  exact HostSort.insertion_of_circle hfs hsr hrf (List.Nodup.of_map _ hnodup) hsorts

/-! ### Whatever the host sorts by -/

/-- The platform with another sort. -/
def JournalPlatform.sortedBy (platform : JournalPlatform) (hostSort : HostSort) :
    JournalPlatform :=
  { platform with hostSort := hostSort }

lemma JournalLaws.sortedBy {candidates : List NormalizedJournalEntryCandidate}
    (h : JournalLaws platform fallback candidates) (hostSort : HostSort) :
    JournalLaws (platform.sortedBy hostSort) fallback candidates where
  trim_toISOString := h.trim_toISOString
  parse_toISOString := h.parse_toISOString
  times_apart := h.times_apart
  ids_apart := h.ids_apart
  digests_apart := h.digests_apart

lemma orderly_sortedBy {candidates : List NormalizedJournalEntryCandidate}
    (hostSort : HostSort) :
    Orderly (platform.sortedBy hostSort) candidates ↔ Orderly platform candidates :=
  ⟨fun h => ⟨h.no_clash, h.in_step⟩, fun h => ⟨h.no_clash, h.in_step⟩⟩

/-- Whatever sort the host has, normalization yields increasing watermarks and distinct ids, keeps
the order of stored watermarks, does not depend on the order of storage and reproduces its result,
exactly where the survivors are orderly. -/
theorem normalizesWell_iff
    (h : JournalLaws platform fallback (storedEntries platform fallback entries)) :
    (∀ hostSort, NormalizesWell (platform.sortedBy hostSort) fallback rest entries) ↔
      Orderly platform (storedEntries platform fallback entries) := by
  constructor
  · intro hall
    have hlaws := h.sortedBy .insertion
    have hwell := hall .insertion
    refine (orderly_sortedBy .insertion).mp ⟨?_, ?_⟩
    · have hread := readEntries_stored hlaws
      exact hread.ids_nodup_iff.mp ((ids_perm _).nodup_iff.mp hwell.distinct_ids)
    · have hread := readEntries_stored hlaws
      exact hread.inStep_dedupe_iff.mp (inStep_of_any_order hlaws rfl hwell.any_order)
  · intro horderly hostSort
    exact normalizesWell_of_orderly (h.sortedBy hostSort)
      ((orderly_sortedBy hostSort).mpr horderly)

end Main

/-! ## Three entries in a circle -/

/-- The canonical text of what one of these entries records. -/
def circlePayloadText (observationId recordedAt : String) : String :=
  "\x7b\"claimIds\":[],\"eventIds\":[],\"mutationEnvelopeHash\":null,\"observationIds\":[\"" ++
    observationId ++ "\"],\"recordedAt\":\"" ++ recordedAt ++
    "\",\"redactionState\":\"not_requested\",\"sourceFingerprint\":null,\"sourceTaskId\":null\x7d"

def circleDigests : List (String × String) :=
  [(circlePayloadText "observation_a" "2026-02-03T00:00:00.000Z",
      "39620cd619299aff3c8374f65e2826350c0b469f459003db851f5db82ee8a2f3"),
    (circlePayloadText "observation_b" "2026-02-01T00:00:00.000Z",
      "163b2cb9f9a770a5f2729b919885e1788d4807f4f3ff58b36668d270a8dfabf3"),
    (circlePayloadText "observation_r" "2026-02-02T00:00:00.000Z",
      "d6ab941da246674e0ed76ae9cb8a5c4ec1b9e972861c0f165afa22ede0f11b7b")]

def circleDates : List (String × ℤ) :=
  [("2026-02-01T00:00:00.000Z", 1769904000000), ("2026-02-02T00:00:00.000Z", 1769990400000),
    ("2026-02-03T00:00:00.000Z", 1770076800000)]

/-- The text of a date of the table. -/
def circleISOString (ms : ℤ) : String :=
  ((circleDates.find? fun date => decide (date.2 = ms)).map Prod.fst).getD ""

def circlePlatform : JournalPlatform where
  toHost := Host.ofTables circleDates []
  sha := Sha256.ofTable circleDigests
    (((validTable_nil.cons (by decide) (by decide)).cons (by decide) (by decide)).cons
      (by decide) (by decide))
  hostSort := .insertion
  toISOString := circleISOString

def storedEntry (watermark : List (String × Json)) (journalEntryId recordedAt : String)
    (observationId : String) : Json :=
  .obj (watermark ++ [("journalEntryId", .str journalEntryId), ("recordedAt", .str recordedAt),
    ("observationIds", .arr [.str observationId])])

def firstStored : Json :=
  storedEntry [("watermark", countJson 1)] "journal_a" "2026-02-03T00:00:00.000Z"
    "observation_a"

def secondStored : Json :=
  storedEntry [("watermark", countJson 2)] "journal_b" "2026-02-01T00:00:00.000Z"
    "observation_b"

def recoveredStored : Json :=
  storedEntry [] "journal_r" "2026-02-02T00:00:00.000Z" "observation_r"

/-- The entry stamped 1 is the latest by its time and the entry stamped 2 the earliest; the one
without a watermark lies between them. Stored in another order, the entry stamped 2 is replayed
before the one stamped 1. -/
theorem circle_of_stored_entries :
    ¬ NormalizesWell circlePlatform "2026-02-01T00:00:00.000Z" []
      [firstStored, secondStored, recoveredStored] := by
  intro h
  have hperm : [firstStored, secondStored, recoveredStored].Perm
      [secondStored, recoveredStored, firstStored] :=
    @List.perm_append_comm _ [firstStored] [secondStored, recoveredStored]
  have hsame := congrArg (fun state => state.entries.map (·.observationIds))
    (h.any_order _ hperm)
  revert hsame
  decide +kernel

lemma circleDates_parse {text : String} {ms : ℤ} (h : circlePlatform.dateParse text = some ms) :
    (text, ms) ∈ circleDates :=
  mem_of_lookup h

lemma trim_circleISOString : ∀ date ∈ circleDates,
    trim (circlePlatform.toISOString date.2) = circlePlatform.toISOString date.2 := by
  decide +kernel

lemma parse_circleISOString : ∀ date ∈ circleDates,
    circlePlatform.dateParse (circlePlatform.toISOString date.2) = some date.2 := by
  decide +kernel

lemma circleLocale_apart {left right : String}
    (h : circlePlatform.locale.tied left right = true) : left = right := by
  obtain ⟨hle, hge⟩ := (Comparator.tied_iff _).mp h
  exact textLe_antisymm hle hge

lemma circleLaws {candidates : List NormalizedJournalEntryCandidate}
    (hdigests : ∀ left ∈ candidates, ∀ right ∈ candidates,
      sliceUnits 24 (sha256HexFromCanonicalJson circlePlatform (journalPayload left.entry)) =
        sliceUnits 24 (sha256HexFromCanonicalJson circlePlatform (journalPayload right.entry)) →
          canonicalJson circlePlatform.locale (journalPayload left.entry) =
            canonicalJson circlePlatform.locale (journalPayload right.entry)) :
    JournalLaws circlePlatform "2026-02-01T00:00:00.000Z" candidates where
  trim_toISOString text ms hparse := trim_circleISOString (text, ms) (circleDates_parse hparse)
  parse_toISOString text ms hparse := parse_circleISOString (text, ms) (circleDates_parse hparse)
  times_apart _ _ _ _ htied := circleLocale_apart htied
  ids_apart _ _ _ _ htied := (String.append_right_inj _).mp (circleLocale_apart htied)
  digests_apart := hdigests

def twoStored : List NormalizedJournalEntryCandidate :=
  storedEntries circlePlatform "2026-02-01T00:00:00.000Z" [recoveredStored, firstStored]

/-- The entry stamped 1 and the one without a watermark, without the third. -/
theorem normalizesWell_two_entries :
    NormalizesWell (circlePlatform.sortedBy .insertion) "2026-02-01T00:00:00.000Z" []
      [recoveredStored, firstStored] := by
  have hstored : (∀ left ∈ twoStored, ∀ right ∈ twoStored,
        sliceUnits 24 (sha256HexFromCanonicalJson circlePlatform (journalPayload left.entry)) =
          sliceUnits 24 (sha256HexFromCanonicalJson circlePlatform (journalPayload right.entry)) →
            canonicalJson circlePlatform.locale (journalPayload left.entry) =
              canonicalJson circlePlatform.locale (journalPayload right.entry)) ∧
      (∀ left ∈ twoStored, ∀ right ∈ twoStored,
        left.entry.journalEntryId ≠ right.entry.journalEntryId →
          canonicalIdOf circlePlatform left ≠ canonicalIdOf circlePlatform right) ∧
      ∀ first ∈ twoStored, ∀ second ∈ twoStored, ∀ recovered ∈ twoStored,
        ¬ ClosesCircle circlePlatform first second recovered := by
    decide +kernel
  obtain ⟨hdigests, hids, hcircles⟩ := hstored
  refine (normalizesWell_iff (circleLaws hdigests)).mpr ⟨?_, ?_⟩ .insertion
  · intro left right _ hleft hright _ hne hsame
    exact absurd hsame (hids left hleft.1 right hright.1 hne)
  · intro first second recovered hfirst hsecond hrecovered
    exact hcircles first hfirst.1.1 second hsecond.1.1 recovered hrecovered.1.1

end AgentBigBrain.Core
