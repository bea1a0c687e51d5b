import AgentBigBrain.Core.DisplacementPolicy
import AgentBigBrain.Core.ProfileFactGovernance

/-!
# Truth governance as a whole

Every candidate is to be placed in one list, kept out of the truth where its source is on no list
that admits it, and given the family of its key. The one thing that stands against it is the table
of key aliases, which answers for two keys with a member of every object.
-/
namespace AgentBigBrain.Core

open AgentBigBrain.Js

variable (platform : BridgePlatform)

/-! ## Governance with the checks that throw -/

/-- `none` where one of the checks throws. -/
def buildCanonicalGovernanceDecision (normalizedSource : String)
    (decision : ProfileMemoryGovernanceDecision) : Option ProfileMemoryGovernanceDecision :=
  if DecisionAllowed normalizedSource decision then some decision else none

def governFactCandidateChecked (candidate : ProfileFactUpsertInput) :
    Option GovernedProfileFactCandidate := do
  let decision ← buildCanonicalGovernanceDecision (normalizedText platform candidate.source)
    (buildFactGovernanceDecision platform candidate.key candidate.value candidate.source)
  let sensitive ← applyProfileMemoryMinimumSensitivityFloor platform decision.family
    candidate.sensitive candidate.key
  some ⟨{ candidate with sensitive }, decision⟩

def governFactCandidatesChecked (candidates : List ProfileFactUpsertInput) :
    Option (List GovernedProfileFactCandidate) :=
  candidates.mapM (governFactCandidateChecked platform)

def quarantinedFactCandidates (factDecisions : List GovernedProfileFactCandidate) :
    List GovernedProfileFactCandidate :=
  factDecisions.filter fun entry => decide (entry.decision.action = .quarantine)

/-- The checks of the registry throw on no fact. -/
lemma governFactCandidateChecked_eq (candidate : ProfileFactUpsertInput) :
    governFactCandidateChecked platform candidate = governFactCandidate platform candidate := by
  have hallowed := decisionAllowed platform candidate.key candidate.value candidate.source
  simp only [governFactCandidateChecked, buildCanonicalGovernanceDecision, if_pos hallowed]
  rfl

/-! ## Allow lists -/

/-- The sources that name what a contact was to the user, or still is. -/
def ALLOWED_CONTACT_LINK_SOURCES : List String :=
  [SEMANTIC_RELATIONSHIP_CURRENT_SOURCE, SEMANTIC_RELATIONSHIP_HISTORICAL_SOURCE,
    SEMANTIC_RELATIONSHIP_SEVERED_SOURCE, "user_input_pattern.direct_contact_relationship_severed",
    "user_input_pattern.direct_contact_relationship_historical",
    "user_input_pattern.work_with_contact_severed",
    "user_input_pattern.work_with_contact_historical",
    "user_input_pattern.work_association_historical"]

/-- The sources that a family admits to the truth or as support, apart from a review. -/
def familyAllowList : ProfileMemoryGovernanceFamily → List String
  | .identityPreferredName =>
      ["conversation.identity_interpretation", "user_input_pattern.name_phrase"]
  | .employmentCurrent =>
      ["user_input_pattern.work_at_historical", "user_input_pattern.work_at",
        "user_input_pattern.job_is"]
  | .residenceCurrent =>
      ["user_input_pattern.residence_historical", "user_input_pattern.residence"]
  | .followupResolution =>
      ["profile_state_reconciliation.followup_resolved",
        "user_input_pattern.followup_resolved_inferred", "user_input_pattern.followup_resolved"]
  | .contactName =>
      "user_input_pattern.contact_entity_hint" ::
        (STRUCTURED_RELATIONSHIP_NAME_SOURCES ++ ALLOWED_EXPLICIT_CONTACT_NAME_SOURCES)
  | .contactRelationship =>
      ALLOWED_CONTACT_LINK_SOURCES ++ ALLOWED_EXPLICIT_CURRENT_CONTACT_RELATIONSHIP_SOURCES
  | .contactWorkAssociation =>
      ALLOWED_CONTACT_LINK_SOURCES ++ ALLOWED_EXPLICIT_CURRENT_CONTACT_WORK_ASSOCIATION_SOURCES
  | .contactOrganizationAssociation | .contactLocationAssociation =>
      ALLOWED_EXPLICIT_CURRENT_CONTACT_GENERIC_ASSOCIATION_SOURCES
  | .contactSchoolAssociation => ["user_input_pattern.school_association"]
  | .contactContext =>
      [SEMANTIC_RELATIONSHIP_CURRENT_SOURCE, SEMANTIC_RELATIONSHIP_HISTORICAL_SOURCE,
        SEMANTIC_RELATIONSHIP_SEVERED_SOURCE] ++ ALLOWED_EXPLICIT_CONTACT_CONTEXT_SOURCES
  | .genericProfileFact =>
      "user_input_pattern.my_is" :: ALLOWED_EXPLICIT_CURRENT_CONTACT_GENERIC_ASSOCIATION_SOURCES
  | .contactEntityHint | .episodeCandidate | .episodeResolution => []

/-- A correction made in a memory review is admitted where the family can be current. -/
def allowedSources (family : ProfileMemoryGovernanceFamily) : List String :=
  if (getProfileMemoryFamilyRegistryEntry family).currentStateEligible then
    MEMORY_REVIEW_FACT_CORRECTION_SOURCE :: familyAllowList family
  else familyAllowList family

/-! ## The decision on a candidate -/

/-- The family is given by the key, and a source on no list of it is turned away. -/
structure DecidedBy (family : ProfileMemoryGovernanceFamily) (source : String)
    (decision : ProfileMemoryGovernanceDecision) : Prop where
  sameFamily : decision.family = family
  quarantined : source ∉ familyAllowList family → decision.action = .quarantine
  noEpisode : decision.action ≠ .allowEpisodeSupport

lemma decidedBy_unsupported (family : ProfileMemoryGovernanceFamily) (source : String)
    (evidenceClass : ProfileMemoryEvidenceClass) :
    DecidedBy family source (unsupportedSource family evidenceClass) :=
  ⟨rfl, fun _ => rfl, ProfileMemoryGovernanceAction.noConfusion⟩

lemma decidedBy_admitted {family : ProfileMemoryGovernanceFamily} {source : String}
    {evidenceClass : ProfileMemoryEvidenceClass} {action : ProfileMemoryGovernanceAction}
    {reason : ProfileMemoryGovernanceReason} (hsource : source ∈ familyAllowList family)
    (haction : action ≠ .allowEpisodeSupport) :
    DecidedBy family source ⟨family, evidenceClass, action, reason⟩ :=
  ⟨rfl, fun hnot => absurd hsource hnot, haction⟩

lemma decidedBy_preferredName (source : String) :
    DecidedBy .identityPreferredName source (governPreferredName source) := by
  unfold governPreferredName
  split_ifs with hstructured hexplicit
  · exact decidedBy_admitted (by simp [familyAllowList, hstructured]) (by decide)
  · exact decidedBy_admitted (by simp [familyAllowList, hexplicit]) (by decide)
  all_goals exact decidedBy_unsupported _ _ _

lemma decidedBy_currentPlace {family : ProfileMemoryGovernanceFamily} {historicalSource : String}
    {historicalReason : ProfileMemoryGovernanceReason} {sources : List String}
    (hhistorical : historicalSource ∈ familyAllowList family)
    (hsources : ∀ source ∈ sources, source ∈ familyAllowList family) (source : String) :
    DecidedBy family source
      (governCurrentPlace family historicalSource historicalReason sources source) := by
  unfold governCurrentPlace
  split_ifs with hpast hstructured hprojection hallowed
  · exact decidedBy_admitted (hpast ▸ hhistorical) (by decide)
  · exact decidedBy_unsupported _ _ _
  · exact decidedBy_unsupported _ _ _
  · exact decidedBy_admitted (hsources source hallowed) (by decide)
  all_goals exact decidedBy_unsupported _ _ _

lemma decidedBy_followupResolution (source : String) :
    DecidedBy .followupResolution source (governFollowupResolution source) := by
  unfold governFollowupResolution
  split_ifs with hprojected hinferred hexplicit
  · exact decidedBy_admitted (by simp [familyAllowList, hprojected]) (by decide)
  · exact decidedBy_admitted (by simp [familyAllowList, hinferred]) (by decide)
  · exact decidedBy_admitted (by simp [familyAllowList, hexplicit]) (by decide)
  all_goals exact decidedBy_unsupported _ _ _

lemma decidedBy_contactName (source : String) :
    DecidedBy .contactName source (governContactName source) := by
  unfold governContactName
  split_ifs with hstructured hconversation hprojection hexplicit
  · exact decidedBy_admitted (by simp [familyAllowList, hstructured]) (by decide)
  · exact decidedBy_unsupported _ _ _
  · exact decidedBy_unsupported _ _ _
  · exact decidedBy_admitted (by simp [familyAllowList, hexplicit]) (by decide)
  all_goals exact decidedBy_unsupported _ _ _

lemma decidedBy_lexicalContactLink {family : ProfileMemoryGovernanceFamily}
    {sources : List String}
    (hfamily : familyAllowList family = ALLOWED_CONTACT_LINK_SOURCES ++ sources)
    (source : String) :
    DecidedBy family source (governLexicalContactLink family sources source) := by
  unfold governLexicalContactLink
  split_ifs with hdirectSevered hdirectHistorical hworkSevered hworkHistorical hconversation
    hprojection hallowed
  · refine decidedBy_admitted ?_ (by decide)
    simp [hfamily, ALLOWED_CONTACT_LINK_SOURCES, hdirectSevered]
  · refine decidedBy_admitted ?_ (by decide)
    simp [hfamily, ALLOWED_CONTACT_LINK_SOURCES, hdirectHistorical]
  · refine decidedBy_admitted ?_ (by decide)
    simp [hfamily, ALLOWED_CONTACT_LINK_SOURCES, hworkSevered]
  · refine decidedBy_admitted ?_ (by decide)
    rcases hworkHistorical with h | h <;> simp [hfamily, ALLOWED_CONTACT_LINK_SOURCES, h]
  · exact decidedBy_unsupported _ _ _
  · exact decidedBy_unsupported _ _ _
  · refine decidedBy_admitted ?_ (by decide)
    simp [hfamily, hallowed]
  all_goals exact decidedBy_unsupported _ _ _

lemma decidedBy_contactLink {family : ProfileMemoryGovernanceFamily} {sources : List String}
    (structuredHistorical structuredSevered : ProfileMemoryGovernanceReason)
    (hfamily : familyAllowList family = ALLOWED_CONTACT_LINK_SOURCES ++ sources)
    (source : String) :
    DecidedBy family source
      (governContactLink family structuredHistorical structuredSevered sources source) := by
  unfold governContactLink
  split_ifs with hcurrent hhistorical hsevered huncertain
  · refine decidedBy_admitted ?_ (by decide)
    simp [hfamily, ALLOWED_CONTACT_LINK_SOURCES, hcurrent]
  · refine decidedBy_admitted ?_ (by decide)
    simp [hfamily, ALLOWED_CONTACT_LINK_SOURCES, hhistorical]
  · refine decidedBy_admitted ?_ (by decide)
    simp [hfamily, ALLOWED_CONTACT_LINK_SOURCES, hsevered]
  · exact decidedBy_unsupported _ _ _
  · exact decidedBy_lexicalContactLink hfamily source

lemma decidedBy_contactAssociation {allowedDecision : ProfileMemoryGovernanceDecision}
    (haction : allowedDecision.action ≠ .allowEpisodeSupport) (source : String) :
    DecidedBy allowedDecision.family source (governContactAssociation allowedDecision
      (familyAllowList allowedDecision.family) source) := by
  unfold governContactAssociation
  split_ifs with hconversation hprojection hallowed
  · exact decidedBy_unsupported _ _ _
  · exact decidedBy_unsupported _ _ _
  · exact ⟨rfl, fun hnot => absurd hallowed hnot, haction⟩
  all_goals exact decidedBy_unsupported _ _ _

lemma decidedBy_contactOrganization (source : String) :
    DecidedBy .contactOrganizationAssociation source (governContactOrganization source) :=
  @decidedBy_contactAssociation ⟨.contactOrganizationAssociation, .userExplicitFact,
    .allowCurrentState, .explicitUserFact⟩ (by decide) source

lemma decidedBy_contactLocation (source : String) :
    DecidedBy .contactLocationAssociation source (governContactLocation source) :=
  @decidedBy_contactAssociation ⟨.contactLocationAssociation, .userExplicitFact,
    .allowCurrentState, .explicitUserFact⟩ (by decide) source

lemma decidedBy_contactSchool (source : String) :
    DecidedBy .contactSchoolAssociation source (governContactSchool source) :=
  @decidedBy_contactAssociation ⟨.contactSchoolAssociation, .userExplicitFact,
    .supportOnlyLegacy, .historicalSchoolAssociationSupportOnly⟩ (by decide) source

lemma decidedBy_contactContext (source : String) :
    DecidedBy .contactContext source (governContactContext source) := by
  unfold governContactContext
  split_ifs with hstructured hconversation hexplicit
  · refine decidedBy_admitted ?_ (by decide)
    rcases hstructured with h | h | h <;> simp [familyAllowList, h]
  · exact decidedBy_unsupported _ _ _
  · refine decidedBy_admitted ?_ (by decide)
    simp [familyAllowList, hexplicit]
  all_goals exact decidedBy_unsupported _ _ _

lemma decidedBy_genericProfileFact (source : String) :
    DecidedBy .genericProfileFact source (governGenericProfileFact source) := by
  unfold governGenericProfileFact
  split_ifs with hallowed
  · refine decidedBy_admitted ?_ (by decide)
    rcases hallowed with h | h <;> simp [familyAllowList, h]
  all_goals exact decidedBy_unsupported _ _ _

lemma contactFamilyOfField_ne {field : String} {family : ProfileMemoryGovernanceFamily}
    (h : contactFamilyOfField field = some family) :
    family = .contactName ∨ family = .contactRelationship ∨ family = .contactWorkAssociation ∨
      family = .contactOrganizationAssociation ∨ family = .contactLocationAssociation ∨
      family = .contactSchoolAssociation := by
  unfold contactFamilyOfField at h
  split at h <;> cases h <;> simp

/-- The decision on a contact key is one of the family that the key is inferred to have. -/
lemma decidedBy_contactFamily (source : String) (parts : List (List Char)) :
    DecidedBy ((contactFamily parts).getD .genericProfileFact) source
      (governContactFamily source (contactFamily parts)) := by
  unfold contactFamily
  split
  · next contact token field =>
      split_ifs
      · cases hfield : contactFamilyOfField (String.ofList field) with
        | none => exact decidedBy_genericProfileFact source
        | some family =>
            rcases contactFamilyOfField_ne hfield with rfl | rfl | rfl | rfl | rfl | rfl
            · exact decidedBy_contactName source
            · exact decidedBy_contactLink _ _ rfl source
            · exact decidedBy_contactLink _ _ rfl source
            · exact decidedBy_contactOrganization source
            · exact decidedBy_contactLocation source
            · exact decidedBy_contactSchool source
      · exact decidedBy_genericProfileFact source
  · split_ifs
    · exact decidedBy_contactContext source
    · exact decidedBy_genericProfileFact source
  · exact decidedBy_genericProfileFact source

variable {platform}

/-- Without a review or a hint, the key's family decides. -/
lemma decidedBy_key {key value source : String}
    (hreview : normalizedText platform source ≠ MEMORY_REVIEW_FACT_CORRECTION_SOURCE)
    (hhint : normalizedText platform source ≠ "user_input_pattern.contact_entity_hint") :
    DecidedBy (inferGovernanceFamilyForNormalizedKey platform (normalizedText platform key) value)
      (normalizedText platform source)
      (buildFactGovernanceDecision platform key value source) := by
  rw [buildFactGovernanceDecision, if_neg hreview, if_neg hhint,
    inferGovernanceFamilyForNormalizedKey]
  by_cases hname : normalizedText platform key = "identity.preferred_name"
  · rw [if_pos hname, if_pos hname]
    exact decidedBy_preferredName _
  rw [if_neg hname, if_neg hname]
  by_cases hemployment : normalizedText platform key = "employment.current"
  · rw [if_pos hemployment, if_pos hemployment]
    exact decidedBy_currentPlace (by decide) (by decide) _
  rw [if_neg hemployment, if_neg hemployment]
  by_cases hresidence : normalizedText platform key = "residence.current"
  · rw [if_pos hresidence, if_pos hresidence]
    exact decidedBy_currentPlace (by decide) (by decide) _
  rw [if_neg hresidence, if_neg hresidence]
  by_cases hfollowup : startsWith (normalizedText platform key) "followup." = true ∧
      normalizedText platform value = "resolved"
  · rw [if_pos hfollowup, if_pos (by exact hfollowup)]
    exact decidedBy_followupResolution _
  · rw [if_neg hfollowup, if_neg (by exact hfollowup)]
    exact decidedBy_contactFamily _ _

/-! ## Governed as asked -/

/-- The candidate stands in one list, under the family of its key, and in no list of truths where
its source is on no list that admits it. -/
structure GovernedAsAsked (platform : BridgePlatform) (candidate : ProfileFactUpsertInput)
    (governed : GovernedProfileFactCandidate) : Prop where
  placedOnce : (allowedCurrentStateFactCandidates [governed]).length +
    (allowedSupportOnlyFactCandidates [governed]).length +
    (quarantinedFactCandidates [governed]).length = 1
  failsClosed : normalizedText platform candidate.source ∉
      allowedSources (inferGovernanceFamilyForNormalizedKey platform
        (normalizedText platform candidate.key) candidate.value) →
    governed ∈ quarantinedFactCandidates [governed]
  keyFamily : normalizedText platform candidate.source ≠
      "user_input_pattern.contact_entity_hint" →
    governed.decision.family = inferGovernanceFamilyForNormalizedKey platform
      (normalizedText platform candidate.key) candidate.value

lemma placedOnce_of_noEpisode {governed : GovernedProfileFactCandidate}
    (h : governed.decision.action ≠ .allowEpisodeSupport) :
    (allowedCurrentStateFactCandidates [governed]).length +
      (allowedSupportOnlyFactCandidates [governed]).length +
      (quarantinedFactCandidates [governed]).length = 1 := by
  unfold allowedCurrentStateFactCandidates allowedSupportOnlyFactCandidates
    quarantinedFactCandidates
  cases haction : governed.decision.action with
  | allowEpisodeSupport => exact absurd haction h
  | _ => simp [haction]

lemma mem_quarantined {governed : GovernedProfileFactCandidate}
    (h : governed.decision.action = .quarantine) :
    governed ∈ quarantinedFactCandidates [governed] := by
  simp [quarantinedFactCandidates, h]

lemma mem_allowedSources {family : ProfileMemoryGovernanceFamily} {source : String}
    (h : source ∉ allowedSources family) : source ∉ familyAllowList family ∧
      (source = MEMORY_REVIEW_FACT_CORRECTION_SOURCE →
        (getProfileMemoryFamilyRegistryEntry family).currentStateEligible = false) := by
  unfold allowedSources at h
  split_ifs at h with heligible
  · obtain ⟨hreview, hfamily⟩ := not_or.mp (fun hmem => h (List.mem_cons.mpr hmem))
    exact ⟨hfamily, fun hsame => absurd hsame hreview⟩
  · exact ⟨h, fun _ => by simpa using heligible⟩

/-- Only the name of a contact is hinted at. -/
lemma familyAllowList_hint {family : ProfileMemoryGovernanceFamily}
    (h : "user_input_pattern.contact_entity_hint" ∉ familyAllowList family) :
    family ≠ .contactName := by
  rintro rfl
  exact h List.mem_cons_self

/-- A key of a contact starts with that word. -/
lemma prefix_of_contactFamily {key : String} {family : ProfileMemoryGovernanceFamily}
    (h : contactFamily (key.toList.splitOn '.') = some family) :
    "contact".toList <+: key.toList := by
  have hjoin : ['.'].intercalate (key.toList.splitOn '.') = key.toList :=
    List.intercalate_splitOn '.'
  unfold contactFamily at h
  split at h
  · next contact token field hparts =>
      split_ifs at h with hcontact
      rw [← hjoin, hparts, ← hcontact.1]
      simp [List.intercalate]
  · next contact token context part rest hparts =>
      split_ifs at h with hcontact
      rw [← hjoin, hparts, ← hcontact.1]
      simp [List.intercalate]
  · cases h

lemma infer_of_contactFamily {key value : String} {family : ProfileMemoryGovernanceFamily}
    (hcontact : contactFamily (key.toList.splitOn '.') = some family) :
    inferGovernanceFamilyForNormalizedKey platform key value = family := by
  obtain ⟨rest, hrest⟩ := prefix_of_contactFamily hcontact
  have hne : ∀ other : String, other.toList.head? ≠ some 'c' → key ≠ other := by
    rintro other hother rfl
    rw [← hrest] at hother
    exact hother rfl
  have hfollowup : ¬ startsWith key "followup." = true := by
    intro hstarts
    obtain ⟨tail, htail⟩ := List.isPrefixOf_iff_prefix.mp hstarts
    have hheads := congrArg List.head? (hrest.trans htail.symm)
    simp at hheads
  rw [inferGovernanceFamilyForNormalizedKey, if_neg (hne _ (by decide)),
    if_neg (hne _ (by decide)), if_neg (hne _ (by decide)), if_neg (fun h => hfollowup h.1),
    hcontact]
  rfl

/-- Every decision on a candidate is as asked. -/
theorem governedAsAsked_of_decision {candidate : ProfileFactUpsertInput}
    {governed : GovernedProfileFactCandidate}
    (hdecision : governed.decision =
      buildFactGovernanceDecision platform candidate.key candidate.value candidate.source) :
    GovernedAsAsked platform candidate governed := by
  by_cases hreview : normalizedText platform candidate.source =
      MEMORY_REVIEW_FACT_CORRECTION_SOURCE
  · rw [buildFactGovernanceDecision, if_pos hreview, governReviewCorrection] at hdecision
    refine ⟨placedOnce_of_noEpisode ?_, fun hsource => mem_quarantined ?_, fun _ => ?_⟩
    · rw [hdecision]
      split_ifs <;> exact ProfileMemoryGovernanceAction.noConfusion
    · rw [hdecision, (mem_allowedSources hsource).2 hreview]
      rfl
    · rw [hdecision]
      split_ifs <;> rfl
  by_cases hhint : normalizedText platform candidate.source =
      "user_input_pattern.contact_entity_hint"
  · rw [buildFactGovernanceDecision, if_neg hreview, if_pos hhint,
      governContactEntityHint] at hdecision
    refine ⟨placedOnce_of_noEpisode ?_, fun hsource => mem_quarantined ?_,
      fun hnot => absurd hhint hnot⟩
    · rw [hdecision]
      split_ifs <;> exact ProfileMemoryGovernanceAction.noConfusion
    · have hfamily := (mem_allowedSources hsource).1
      rw [hhint] at hfamily
      have hcontact : ¬ contactFamily ((normalizedText platform candidate.key).toList.splitOn '.') =
          some .contactName :=
        fun hname => familyAllowList_hint hfamily (infer_of_contactFamily hname)
      rw [hdecision, if_neg hcontact]
      rfl
  · have hdecided := @decidedBy_key platform candidate.key candidate.value _ hreview hhint
    rw [← hdecision] at hdecided
    refine ⟨placedOnce_of_noEpisode hdecided.noEpisode, fun hsource => mem_quarantined ?_,
      fun _ => hdecided.sameFamily⟩
    exact hdecided.quarantined (mem_allowedSources hsource).1

/-! ## Keys of which the alias table answers with a member of every object -/

/-- Letters that the normalization of a key leaves where they are. -/
def IsPlain (c : Char) : Prop :=
  isProfileKeyChar c = true ∧ isWhitespace c = false ∧ c ≠ '-' ∧ c ≠ '.'

instance (c : Char) : Decidable (IsPlain c) :=
  inferInstanceAs (Decidable (_ ∧ _))

lemma isPlain_of_all {word : List Char} (h : (word.all fun c => decide (IsPlain c)) = true) :
    ∀ c ∈ word, IsPlain c :=
  fun c hc => of_decide_eq_true (List.all_eq_true.mp h c hc)

lemma dotRuns_append {inSet : Char → Bool} {word : List Char}
    (hword : ∀ c ∈ word, inSet c = false) (hne : word ≠ []) (inRun : Bool) (rest : List Char) :
    dotRuns inSet inRun (word ++ rest) = word ++ dotRuns inSet false rest := by
  induction word generalizing inRun with
  | nil => exact absurd rfl hne
  | cons c word ih =>
      have hc : inSet c = false := hword c List.mem_cons_self
      rw [List.cons_append, dotRuns, if_neg (by simp [hc])]
      by_cases hempty : word = []
      · simp [hempty]
      · rw [ih (fun d hd => hword d (List.mem_cons_of_mem _ hd)) hempty, List.cons_append]

lemma dropDot_append {word : List Char} (hword : ∀ c ∈ word, c ≠ '.') (hne : word ≠ [])
    (rest : List Char) : dropDot (word ++ rest) = word ++ rest := by
  cases word with
  | nil => exact absurd rfl hne
  | cons c word =>
      have hc : c ≠ '.' := hword c List.mem_cons_self
      rw [List.cons_append]
      unfold dropDot
      split
      · next heq =>
          obtain ⟨rfl, -⟩ := List.cons.inj heq
          exact absurd rfl hc
      · rfl

/-- A last dot is dropped behind the word, not from it. -/
lemma dropDot_reverse_append {word : List Char} (hword : ∀ c ∈ word, c ≠ '.') (hne : word ≠ [])
    (rest : List Char) : ∃ rest', (dropDot (word ++ rest).reverse).reverse = word ++ rest' := by
  rcases List.eq_nil_or_concat' rest with rfl | ⟨front, last, rfl⟩
  · refine ⟨[], ?_⟩
    rw [List.append_nil, ← List.append_nil word.reverse,
      dropDot_append (by simpa using hword) (by simpa using hne)]
    simp
  · have hreverse : (word ++ (front ++ [last])).reverse = last :: (word ++ front).reverse := by
      simp
    rw [hreverse]
    by_cases hlast : last = '.'
    · exact ⟨front, by simp [hlast, dropDot]⟩
    · refine ⟨front ++ [last], ?_⟩
      have hkept : dropDot (last :: (word ++ front).reverse) = last :: (word ++ front).reverse :=
        @dropDot_append [last] (by simpa using hlast) (by simp) _
      rw [hkept]
      simp

/-- A key that starts with a word of plain letters still does once it is normalized. -/
lemma normalizeProfileKey_begins {key : String} {word : List Char}
    (hword : ∀ c ∈ word, IsPlain c) (hne : word ≠ [])
    (hkey : word <+: (normalizedText platform key).toList) :
    word <+: (normalizeProfileKey platform key).toList := by
  obtain ⟨rest, hrest⟩ := hkey
  have hkept : (normalizedText platform key).toList.filter isProfileKeyChar =
      word ++ rest.filter isProfileKeyChar := by
    rw [← hrest, List.filter_append, List.filter_eq_self.mpr fun c hc => (hword c hc).1]
  have hspaces : ∀ c ∈ word, (isWhitespace c || c == '-') = false := by
    intro c hc
    simp [(hword c hc).2.1, (hword c hc).2.2.1]
  have hdots : ∀ c ∈ word, (c == '.') = false := fun c hc => by simp [(hword c hc).2.2.2]
  have hnodots : ∀ c ∈ word, c ≠ '.' := fun c hc => (hword c hc).2.2.2
  unfold normalizeProfileKey
  unfold normalizedText at hkept
  dsimp only
  rw [hkept, dotRuns_append hspaces hne, dotRuns_append hdots hne, dropDot_append hnodots hne]
  obtain ⟨rest', hrest'⟩ := dropDot_reverse_append hnodots hne
    (dotRuns (· == '.') false (dotRuns (fun c => isWhitespace c || c == '-') false
      (rest.filter isProfileKeyChar)))
  rw [hrest', String.toList_ofList]
  exact List.prefix_append word rest'

/-- The keys that the alias table inherits belong to no family of their own. -/
lemma infer_of_inherited {key value : String}
    (h : normalizeProfileKey platform key ∈ inheritedKeys) :
    inferGovernanceFamilyForNormalizedKey platform (normalizedText platform key) value =
      .genericProfileFact := by
  have hno : ∀ word : List Char, (∀ c ∈ word, IsPlain c) → word ≠ [] →
      (∀ key ∈ inheritedKeys, ¬ word <+: key.toList) →
      ¬ word <+: (normalizedText platform key).toList := by
    intro word hword hne hinherited hleads
    exact hinherited _ h (normalizeProfileKey_begins hword hne hleads)
  have hcontact : contactFamily ((normalizedText platform key).toList.splitOn '.') = none := by
    by_contra hsome
    obtain ⟨family, hfamily⟩ := Option.ne_none_iff_exists'.mp hsome
    exact hno "contact".toList (isPlain_of_all (by decide)) (by decide) (by decide)
      (prefix_of_contactFamily hfamily)
  have hne : ∀ word : List Char, (∀ c ∈ word, IsPlain c) → word ≠ [] →
      (∀ key ∈ inheritedKeys, ¬ word <+: key.toList) → ∀ other : String,
      word <+: other.toList → normalizedText platform key ≠ other := by
    rintro word hword hnonempty hinherited other hother rfl
    exact hno word hword hnonempty hinherited hother
  have hfollowup : ¬ startsWith (normalizedText platform key) "followup." = true := by
    intro hstarts
    have hdotted := List.isPrefixOf_iff_prefix.mp hstarts
    exact hno "followup".toList (isPlain_of_all (by decide)) (by decide) (by decide)
      ((by decide : "followup".toList <+: "followup.".toList).trans hdotted)
  rw [inferGovernanceFamilyForNormalizedKey,
    if_neg (hne "identity".toList (isPlain_of_all (by decide)) (by decide) (by decide)
      _ (by decide)),
    if_neg (hne "employment".toList (isPlain_of_all (by decide)) (by decide) (by decide)
      _ (by decide)),
    if_neg (hne "residence".toList (isPlain_of_all (by decide)) (by decide) (by decide)
      _ (by decide)),
    if_neg (fun h => hfollowup h.1), hcontact]
  rfl

lemma canonicalizeProfileKey_eq_none_iff {key : String} :
    canonicalizeProfileKey platform key = none ↔
      normalizeProfileKey platform key ∈ inheritedKeys := by
  have hlookup : ∀ inherited ∈ inheritedKeys, PROFILE_KEY_ALIASES.lookup inherited = none := by
    decide
  unfold canonicalizeProfileKey
  constructor
  · intro h
    dsimp only at h
    split at h
    · cases h
    · split_ifs at h with hinherited
      exact hinherited
  · intro h
    dsimp only
    rw [hlookup _ h]
    exact if_pos h

/-- The family of a decision on such a key. -/
lemma decision_family_of_inherited {key value source : String}
    (h : normalizeProfileKey platform key ∈ inheritedKeys) :
    (buildFactGovernanceDecision platform key value source).family = .genericProfileFact := by
  have hinfer := @infer_of_inherited platform key value h
  by_cases hhint : normalizedText platform source = "user_input_pattern.contact_entity_hint"
  · have hreview : normalizedText platform source ≠ MEMORY_REVIEW_FACT_CORRECTION_SOURCE := by
      rw [hhint]
      decide
    rw [buildFactGovernanceDecision, if_neg hreview, if_pos hhint, governContactEntityHint]
    split_ifs with hcontact
    · rw [infer_of_contactFamily hcontact] at hinfer
      cases hinfer
    · exact hinfer
  · let candidate : ProfileFactUpsertInput := ⟨key, value, false, "", source, none, none, none⟩
    have hgoverned : GovernedAsAsked platform candidate
        ⟨candidate, buildFactGovernanceDecision platform key value source⟩ :=
      governedAsAsked_of_decision rfl
    exact (hgoverned.keyFamily hhint).trans hinfer

lemma governFactCandidateChecked_eq_none {candidate : ProfileFactUpsertInput}
    (h : normalizeProfileKey platform candidate.key ∈ inheritedKeys) :
    governFactCandidateChecked platform candidate = none := by
  rw [governFactCandidateChecked_eq]
  unfold governFactCandidate applyProfileMemoryMinimumSensitivityFloor isSensitiveKey
  dsimp only
  rw [decision_family_of_inherited h, canonicalizeProfileKey_eq_none_iff.mpr h]
  rfl

lemma exists_governed {candidate : ProfileFactUpsertInput}
    (h : normalizeProfileKey platform candidate.key ∉ inheritedKeys) :
    ∃ governed, governFactCandidateChecked platform candidate = some governed ∧
      GovernedAsAsked platform candidate governed := by
  obtain ⟨canonical, hcanonical⟩ :=
    Option.ne_none_iff_exists'.mp (mt canonicalizeProfileKey_eq_none_iff.mp h)
  have hfloor : ∀ family sensitive, ∃ floored, applyProfileMemoryMinimumSensitivityFloor platform
      family sensitive candidate.key = some floored := by
    intro family sensitive
    unfold applyProfileMemoryMinimumSensitivityFloor isSensitiveKey
    rw [hcanonical]
    split <;> exact ⟨_, rfl⟩
  obtain ⟨floored, hfloored⟩ := hfloor
    (buildFactGovernanceDecision platform candidate.key candidate.value candidate.source).family
    candidate.sensitive
  refine ⟨⟨{ candidate with sensitive := floored }, _⟩, ?_, governedAsAsked_of_decision rfl⟩
  rw [governFactCandidateChecked_eq]
  unfold governFactCandidate
  dsimp only
  rw [hfloored]
  rfl

/-- Governance takes a list of candidates, and places each as asked, exactly when no key of them is
one that the alias table inherits. -/
theorem truth_governance_total_iff (platform : BridgePlatform)
    (candidates : List ProfileFactUpsertInput) :
    (∃ governed, governFactCandidatesChecked platform candidates = some governed ∧
      List.Forall₂ (GovernedAsAsked platform) candidates governed) ↔
    ∀ candidate ∈ candidates, normalizeProfileKey platform candidate.key ∉ inheritedKeys := by
  unfold governFactCandidatesChecked
  constructor
  · rintro ⟨governed, hgoverned, -⟩ candidate hcandidate hinherited
    have hnone := governFactCandidateChecked_eq_none hinherited
    obtain ⟨before, after, rfl⟩ := List.append_of_mem hcandidate
    simp only [List.mapM_append, List.mapM_cons, hnone] at hgoverned
    simp at hgoverned
  · intro h
    induction candidates with
    | nil => exact ⟨[], rfl, .nil⟩
    | cons candidate rest ih =>
        obtain ⟨first, hfirst, hasked⟩ := exists_governed (h candidate List.mem_cons_self)
        obtain ⟨others, hothers, hrest⟩ := ih fun other hother =>
          h other (List.mem_cons_of_mem _ hother)
        refine ⟨first :: others, ?_, .cons hasked hrest⟩
        rw [List.mapM_cons, hfirst, hothers]
        rfl

/-- A fact under the key `constructor`. -/
def constructorCandidate : ProfileFactUpsertInput where
  key := "constructor"
  value := "a bridge builder"
  sensitive := false
  sourceTaskId := "task_1"
  source := "user_input_pattern.my_is"
  observedAt := none
  confidence := none
  mutationAudit := none

/-- Governance throws on it. -/
theorem constructor_key_throws :
    ¬ ∃ governed, governFactCandidatesChecked profilePlatform [constructorCandidate] =
        some governed ∧
      List.Forall₂ (GovernedAsAsked profilePlatform) [constructorCandidate] governed := by
  rintro ⟨governed, hgoverned, -⟩
  have hinherited : normalizeProfileKey profilePlatform constructorCandidate.key ∈
      inheritedKeys := by
    decide
  rw [governFactCandidatesChecked, List.mapM_cons,
    governFactCandidateChecked_eq_none hinherited] at hgoverned
  cases hgoverned

end AgentBigBrain.Core
