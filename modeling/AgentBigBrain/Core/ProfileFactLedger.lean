import AgentBigBrain.Core.ProfileFactLifecycle

/-!
# The ledger of profile facts

What a sequence of upserts leaves active: the active values of a key are distinct, at most one
is left where values replace each other, and at most one is confirmed where the prior value is
preserved. What is superseded stays in the list as it is.
-/
namespace AgentBigBrain.Core

open AgentBigBrain.Js AgentBigBrain.Lib

variable (platform : BridgePlatform)

structure UpsertCall where
  input : ProfileFactUpsertInput
  readings : UpsertReadings
  deriving DecidableEq

def UpsertCall.terms (call : UpsertCall) : Option UpsertTerms :=
  upsertTerms platform call.input call.readings

/-- The state after one call; a call that throws leaves the state. -/
def applyUpsertCall (state : ProfileFactState) (call : UpsertCall) : ProfileFactState :=
  (upsertTemporalProfileFact platform state call.input call.readings).elim state (·.nextState)

def applyUpserts (state : ProfileFactState) (calls : List UpsertCall) : ProfileFactState :=
  calls.foldl (applyUpsertCall platform) state

/-! ## One upsert -/

lemma isActiveFact_iff {fact : ProfileFactRecord} :
    isActiveFact fact = true ↔ fact.status ≠ .superseded ∧ fact.supersededAt = none := by
  simp [isActiveFact]

@[simp] lemma isActiveFact_toSupersededFact (fact : ProfileFactRecord) (nowIso : String) :
    isActiveFact (toSupersededFact fact nowIso) = false := by
  simp [isActiveFact, toSupersededFact]

lemma isActiveOf_iff {key : String} {fact : ProfileFactRecord} :
    isActiveOf key fact = true ↔ isActiveFact fact = true ∧ fact.key = key := by
  simp [isActiveOf]

lemma mem_activeFactsOf {key : String} {facts : List ProfileFactRecord}
    {fact : ProfileFactRecord} :
    fact ∈ activeFactsOf key facts ↔ fact ∈ facts ∧ isActiveFact fact = true ∧ fact.key = key := by
  rw [activeFactsOf, List.mem_filter, isActiveOf_iff]

@[simp] lemma activeFactsOf_append (key : String) (facts others : List ProfileFactRecord) :
    activeFactsOf key (facts ++ others) = activeFactsOf key facts ++ activeFactsOf key others := by
  simp [activeFactsOf]

@[simp] lemma activeFactsOf_superseded (key nowIso : String) (facts : List ProfileFactRecord) :
    activeFactsOf key (facts.map (toSupersededFact · nowIso)) = [] := by
  simp [activeFactsOf, List.filter_eq_nil_iff, isActiveOf]

@[simp] lemma activeFactsOf_idem (key : String) (facts : List ProfileFactRecord) :
    activeFactsOf key (activeFactsOf key facts) = activeFactsOf key facts := by
  simp [activeFactsOf, List.filter_filter]

lemma activeFactsOf_singleton {key : String} {fact : ProfileFactRecord}
    (hactive : isActiveFact fact = true) (hkey : fact.key = key) :
    activeFactsOf key [fact] = [fact] := by
  simp [activeFactsOf, isActiveOf, hactive, hkey]

lemma activeFactsOf_singleton_of_ne {key : String} {fact : ProfileFactRecord}
    (hkey : fact.key ≠ key) : activeFactsOf key [fact] = [] := by
  simp [activeFactsOf, isActiveOf, hkey]

lemma activeFactsOf_untouched (key other : String) (facts : List ProfileFactRecord) :
    activeFactsOf other (facts.filter (!isActiveOf key ·)) =
      if other = key then [] else activeFactsOf other facts := by
  rw [activeFactsOf, List.filter_filter]
  split_ifs with hkey
  · subst hkey
    simp
  · refine List.filter_congr fun fact _ => ?_
    by_cases hother : isActiveOf other fact = true
    · have hne : isActiveOf key fact = false := by
        rw [Bool.eq_false_iff]
        exact fun h => hkey ((isActiveOf_iff.mp hother).2.symm.trans (isActiveOf_iff.mp h).2)
      simp [hother, hne]
    · simp [hother]

lemma mem_matchingActiveFacts {facts : List ProfileFactRecord} {terms : UpsertTerms}
    {fact : ProfileFactRecord} :
    fact ∈ matchingActiveFacts facts terms ↔
      fact ∈ activeFactsOf terms.key facts ∧ normalizeProfileValue fact.value = terms.value := by
  rw [matchingActiveFacts, List.mem_filter]
  refine and_congr_right fun hmem => ?_
  simp [keyAndValueMatch, (mem_activeFactsOf.mp hmem).2.2]

lemma mem_conflictingActiveFacts {facts : List ProfileFactRecord} {terms : UpsertTerms}
    {fact : ProfileFactRecord} :
    fact ∈ conflictingActiveFacts facts terms ↔
      fact ∈ activeFactsOf terms.key facts ∧ normalizeProfileValue fact.value ≠ terms.value := by
  rw [conflictingActiveFacts, List.mem_filter]
  refine and_congr_right fun hmem => ?_
  simp [keyAndValueMatch, (mem_activeFactsOf.mp hmem).2.2]

/-- Where no active fact of the key has the value, all of them conflict. -/
lemma conflicting_of_no_match {facts : List ProfileFactRecord} {terms : UpsertTerms}
    (hnone : matchingActiveFacts facts terms = []) :
    conflictingActiveFacts facts terms = activeFactsOf terms.key facts := by
  refine List.filter_eq_self.mpr fun fact hfact => ?_
  have hno := List.filter_eq_nil_iff.mp hnone fact hfact
  simpa using hno

lemma activeFactsOf_conflicting (facts : List ProfileFactRecord) (terms : UpsertTerms)
    (key : String) :
    activeFactsOf key (conflictingActiveFacts facts terms) =
      if key = terms.key then conflictingActiveFacts facts terms else [] := by
  split_ifs with hkey
  · refine List.filter_eq_self.mpr fun fact hfact => ?_
    have hmem := (mem_conflictingActiveFacts.mp hfact).1
    exact isActiveOf_iff.mpr (hkey ▸ (mem_activeFactsOf.mp hmem).2)
  · refine List.filter_eq_nil_iff.mpr fun fact hfact hactive => hkey ?_
    have hmem := (mem_conflictingActiveFacts.mp hfact).1
    exact (isActiveOf_iff.mp hactive).2.symm.trans (mem_activeFactsOf.mp hmem).2.2

lemma isActiveFact_refresh {fact : ProfileFactRecord} (hactive : isActiveFact fact = true)
    {status : ProfileFactStatus} (hstatus : status ≠ .superseded) (confidence : ℚ)
    (nowIso : String) (input : ProfileFactUpsertInput) :
    isActiveFact (refreshProfileFact fact status confidence nowIso input) = true := by
  refine isActiveFact_iff.mpr ⟨?_, (isActiveFact_iff.mp hactive).2⟩
  dsimp only [refreshProfileFact]
  split_ifs
  · simp
  · exact hstatus

lemma challengerStatus_ne_superseded (conflicting : List ProfileFactRecord)
    (input : ProfileFactUpsertInput) (terms : UpsertTerms) :
    challengerStatus platform conflicting input terms ≠ .superseded := by
  unfold challengerStatus
  split_ifs
  · simp
  · exact terms.status_active

lemma activeFactsOf_created (input : ProfileFactUpsertInput) (readings : UpsertReadings)
    (terms : UpsertTerms) {status : ProfileFactStatus} (hstatus : status ≠ .superseded) :
    activeFactsOf terms.key [createProfileFactRecord input readings terms status] =
      [createProfileFactRecord input readings terms status] :=
  activeFactsOf_singleton (isActiveFact_iff.mpr ⟨hstatus, rfl⟩) rfl

/-- The active facts an upsert leaves under its key. -/
inductive UpsertOutcome (facts : List ProfileFactRecord) (call : UpsertCall)
    (terms : UpsertTerms) : List ProfileFactRecord → Prop where
  /-- The value was active: its fact is refreshed and every other one superseded. -/
  | refreshed (fact : ProfileFactRecord) (hmem : fact ∈ matchingActiveFacts facts terms) :
      UpsertOutcome facts call terms [refreshProfileFact fact terms.status terms.confidence
        call.readings.nowIso call.input]
  /-- The value is new and replaces the others. -/
  | replaced (hnone : matchingActiveFacts facts terms = [])
      (hdisposition : resolveConflictDisposition platform terms.displacementPolicy
        call.input.source = .replace) :
      UpsertOutcome facts call terms
        [createProfileFactRecord call.input call.readings terms terms.status]
  /-- The value is new and joins the others. -/
  | joined (hnone : matchingActiveFacts facts terms = [])
      (hdisposition : resolveConflictDisposition platform terms.displacementPolicy
        call.input.source ≠ .replace) :
      UpsertOutcome facts call terms (activeFactsOf terms.key facts ++
        [createProfileFactRecord call.input call.readings terms
          (challengerStatus platform (activeFactsOf terms.key facts) call.input terms)])

variable {platform} {state : ProfileFactState} {call : UpsertCall} {terms : UpsertTerms}

lemma applyUpsertCall_of_none (hterms : call.terms platform = none) :
    applyUpsertCall platform state call = state := by
  rw [UpsertCall.terms] at hterms
  simp [applyUpsertCall, upsertTemporalProfileFact, hterms]

lemma facts_of_terms (hterms : call.terms platform = some terms) :
    (applyUpsertCall platform state call).facts =
      (upsertFacts platform state.facts call.input call.readings terms).1 := by
  rw [UpsertCall.terms] at hterms
  simp [applyUpsertCall, upsertTemporalProfileFact, hterms]

/-- An upsert leaves one of three outcomes under its key. -/
theorem upsert_outcome (hterms : call.terms platform = some terms) :
    UpsertOutcome platform state.facts call terms
      (activeFactsOf terms.key (applyUpsertCall platform state call).facts) := by
  rw [facts_of_terms hterms]
  unfold upsertFacts
  dsimp only
  split
  · rename_i first duplicates hmatching
    have hmem : first ∈ matchingActiveFacts state.facts terms := by
      rw [hmatching]
      exact List.mem_cons_self
    have hkey := mem_activeFactsOf.mp (mem_matchingActiveFacts.mp hmem).1
    have hwinner := isActiveFact_refresh hkey.2.1 terms.status_active terms.confidence
      call.readings.nowIso call.input
    rw [← List.singleton_append, activeFactsOf_append, activeFactsOf_append,
      activeFactsOf_untouched, if_pos rfl, activeFactsOf_superseded,
      activeFactsOf_singleton hwinner hkey.2.2]
    exact .refreshed first hmem
  · rename_i hnone
    rw [conflicting_of_no_match hnone]
    by_cases hreplace : resolveConflictDisposition platform terms.displacementPolicy
        call.input.source = .replace
    · have hstatus : challengerStatus platform (activeFactsOf terms.key state.facts) call.input
          terms = terms.status := by simp [challengerStatus, hreplace]
      have hcreated := activeFactsOf_created call.input call.readings terms terms.status_active
      rw [if_pos hreplace, hstatus, activeFactsOf_append, activeFactsOf_append,
        activeFactsOf_untouched, if_pos rfl, activeFactsOf_superseded,
        hcreated]
      exact .replaced hnone hreplace
    · have hcreated := activeFactsOf_created call.input call.readings terms
        (challengerStatus_ne_superseded platform (activeFactsOf terms.key state.facts) call.input
          terms)
      rw [if_neg hreplace, activeFactsOf_append, activeFactsOf_append,
        activeFactsOf_untouched, if_pos rfl, activeFactsOf_idem,
        hcreated]
      exact .joined hnone hreplace

/-- No other key is touched. -/
theorem upsert_other_key (hterms : call.terms platform = some terms) {key : String}
    (hkey : key ≠ terms.key) :
    activeFactsOf key (applyUpsertCall platform state call).facts =
      activeFactsOf key state.facts := by
  rw [facts_of_terms hterms]
  unfold upsertFacts
  dsimp only
  have huntouched := activeFactsOf_untouched terms.key key state.facts
  rw [if_neg hkey] at huntouched
  split
  · rename_i first duplicates hmatching
    have hmem : first ∈ matchingActiveFacts state.facts terms := by
      rw [hmatching]
      exact List.mem_cons_self
    have hfirst := (mem_activeFactsOf.mp (mem_matchingActiveFacts.mp hmem).1).2.2
    have hwinner : (refreshProfileFact first terms.status terms.confidence
        call.readings.nowIso call.input).key ≠ key := fun h => hkey (h.symm.trans hfirst)
    rw [← List.singleton_append, activeFactsOf_append, activeFactsOf_append, huntouched,
      activeFactsOf_superseded, activeFactsOf_singleton_of_ne hwinner, List.append_nil,
      List.append_nil]
  · have hconflicting := activeFactsOf_conflicting state.facts terms key
    rw [if_neg hkey] at hconflicting
    split_ifs
    · rw [activeFactsOf_append, activeFactsOf_append, huntouched, activeFactsOf_superseded,
        activeFactsOf_singleton_of_ne hkey.symm, List.append_nil, List.append_nil]
    · rw [activeFactsOf_append, activeFactsOf_append, huntouched, hconflicting,
        activeFactsOf_singleton_of_ne hkey.symm, List.append_nil, List.append_nil]

/-! ## The active facts of a key -/

/-- The normalized values a list of facts holds. -/
def normalizedValues (facts : List ProfileFactRecord) : List String :=
  facts.map fun fact => normalizeProfileValue fact.value

def confirmedFacts (facts : List ProfileFactRecord) : List ProfileFactRecord :=
  facts.filter fun fact => decide (fact.status = .confirmed)

variable {facts next : List ProfileFactRecord}

lemma UpsertOutcome.nodup_values (houtcome : UpsertOutcome platform facts call terms next)
    (hnodup : (normalizedValues (activeFactsOf terms.key facts)).Nodup) :
    (normalizedValues next).Nodup := by
  cases houtcome with
  | refreshed fact hmem => simp [normalizedValues]
  | replaced hnone hdisposition => simp [normalizedValues]
  | joined hnone hdisposition =>
      have hfresh : terms.value ∉ normalizedValues (activeFactsOf terms.key facts) := by
        intro hvalue
        obtain ⟨fact, hfact, heq⟩ := List.mem_map.mp hvalue
        have hmatch := mem_matchingActiveFacts.mpr ⟨hfact, heq⟩
        rw [hnone] at hmatch
        exact List.not_mem_nil hmatch
      have happend : normalizedValues (activeFactsOf terms.key facts ++
          [createProfileFactRecord call.input call.readings terms
            (challengerStatus platform (activeFactsOf terms.key facts) call.input terms)]) =
          normalizedValues (activeFactsOf terms.key facts) ++ [terms.value] := by
        simp [normalizedValues, createProfileFactRecord, terms.value_normal]
      rw [happend]
      exact List.Nodup.append hnodup (List.nodup_singleton _) (by simpa using hfresh)

lemma UpsertOutcome.length_le_one (houtcome : UpsertOutcome platform facts call terms next)
    (hpolicy : terms.displacementPolicy = .replaceAuthoritativeSuccessor ∨
      terms.displacementPolicy = .resolutionOnly) : next.length ≤ 1 := by
  cases houtcome with
  | refreshed fact hmem => simp
  | replaced hnone hdisposition => simp
  | joined hnone hdisposition =>
      refine absurd ?_ hdisposition
      unfold resolveConflictDisposition
      split_ifs
      · rfl
      · rcases hpolicy with h | h <;> rw [h]

lemma length_confirmedFacts_singleton (fact : ProfileFactRecord) :
    (confirmedFacts [fact]).length ≤ 1 :=
  List.length_filter_le _ _

lemma UpsertOutcome.confirmed_le_one (houtcome : UpsertOutcome platform facts call terms next)
    (hpolicy : terms.displacementPolicy = .preservePriorOnConflict)
    (hprior : (confirmedFacts (activeFactsOf terms.key facts)).length ≤ 1) :
    (confirmedFacts next).length ≤ 1 := by
  cases houtcome with
  | refreshed fact hmem => exact length_confirmedFacts_singleton _
  | replaced hnone hdisposition => exact length_confirmedFacts_singleton _
  | joined hnone hdisposition =>
      have hpreserve : resolveConflictDisposition platform terms.displacementPolicy
          call.input.source = .preserve := by
        unfold resolveConflictDisposition at hdisposition ⊢
        split_ifs at hdisposition ⊢
        · exact absurd rfl hdisposition
        · rw [hpolicy]
      by_cases hfirst : activeFactsOf terms.key facts = []
      · rw [hfirst, List.nil_append]
        exact length_confirmedFacts_singleton _
      · -- A challenger of a fact that is kept is uncertain.
        have hstatus : challengerStatus platform (activeFactsOf terms.key facts) call.input
            terms = .uncertain := if_pos ⟨hfirst, hpreserve⟩
        rw [hstatus]
        simpa [confirmedFacts, createProfileFactRecord] using hprior

/-- What one upsert preserves of the active facts of a key, a run of them does. -/
theorem activeFactsOf_of_run {Q : List ProfileFactRecord → Prop} {key : String}
    {calls : List UpsertCall}
    (hstep : ∀ call ∈ calls, ∀ terms ∈ call.terms platform, terms.key = key →
      ∀ facts next, UpsertOutcome platform facts call terms next →
        Q (activeFactsOf terms.key facts) → Q next)
    {start : ProfileFactState} (hstart : Q (activeFactsOf key start.facts)) :
    Q (activeFactsOf key (applyUpserts platform start calls).facts) := by
  induction calls generalizing start with
  | nil => exact hstart
  | cons call calls ih =>
      refine ih (fun other hother => hstep other (List.mem_cons_of_mem call hother)) ?_
      cases hterms : call.terms platform with
      | none => rwa [applyUpsertCall_of_none hterms]
      | some terms =>
          by_cases hkey : terms.key = key
          · subst hkey
            exact hstep call List.mem_cons_self terms hterms rfl _ _ (upsert_outcome hterms) hstart
          · rwa [upsert_other_key hterms (Ne.symm hkey)]

/-! ## What stays in the list -/

def factIds (facts : List ProfileFactRecord) : List String :=
  facts.map (·.id)

def supersededFacts (facts : List ProfileFactRecord) : List ProfileFactRecord :=
  facts.filter (!isActiveFact ·)

/-- The same fact, whose status and dates may have changed. -/
def SameFact (fact other : ProfileFactRecord) : Prop :=
  fact.id = other.id ∧ fact.key = other.key ∧ fact.value = other.value

/-- Of the facts of its key, an upsert keeps each, and adds at most one. -/
structure Rewritten (newId : String) (active rest : List ProfileFactRecord) : Prop where
  ids : (factIds rest).Perm (factIds active) ∨ (factIds rest).Perm (newId :: factIds active)
  origin : ∀ fact ∈ rest, isActiveFact fact = true →
    (∃ prior ∈ active, SameFact prior fact) ∨ fact.id = newId

lemma factIds_append (facts others : List ProfileFactRecord) :
    factIds (facts ++ others) = factIds facts ++ factIds others :=
  List.map_append

lemma factIds_superseded (facts : List ProfileFactRecord) (nowIso : String) :
    factIds (facts.map (toSupersededFact · nowIso)) = factIds facts := by
  simp [factIds, toSupersededFact, Function.comp_def]

lemma matching_conflicting_perm (facts : List ProfileFactRecord) (terms : UpsertTerms) :
    (matchingActiveFacts facts terms ++ conflictingActiveFacts facts terms).Perm
      (activeFactsOf terms.key facts) :=
  List.filter_append_perm _ _

variable (state) in
/-- An upsert leaves what is not active under its key, and rewrites the rest. -/
theorem upsert_rewritten (hterms : call.terms platform = some terms) :
    ∃ rest, (applyUpsertCall platform state call).facts =
        state.facts.filter (!isActiveOf terms.key ·) ++ rest ∧
      Rewritten call.readings.newId (activeFactsOf terms.key state.facts) rest := by
  rw [facts_of_terms hterms]
  unfold upsertFacts
  dsimp only
  have hperm := (matching_conflicting_perm state.facts terms).map (·.id)
  split
  · rename_i first duplicates hmatching
    have hmem : first ∈ matchingActiveFacts state.facts terms := by
      rw [hmatching]
      exact List.mem_cons_self
    refine ⟨_, rfl, .inl ?_, ?_⟩
    · rw [hmatching] at hperm
      simpa [factIds, refreshProfileFact, toSupersededFact, Function.comp_def] using hperm
    · intro fact hfact hactive
      rcases List.mem_cons.mp hfact with rfl | hfact
      · exact .inl ⟨first, (mem_matchingActiveFacts.mp hmem).1, rfl, rfl, rfl⟩
      · obtain ⟨prior, -, rfl⟩ := List.mem_map.mp hfact
        simp at hactive
  · rename_i hnone
    rw [hnone, List.nil_append] at hperm
    have hids : ∀ status, (factIds (conflictingActiveFacts state.facts terms ++
        [createProfileFactRecord call.input call.readings terms status])).Perm
          (call.readings.newId :: factIds (activeFactsOf terms.key state.facts)) := by
      intro status
      rw [factIds_append]
      exact (List.perm_append_singleton _ _).trans (hperm.cons _)
    split_ifs
    · refine ⟨_, List.append_assoc _ _ _, .inr ?_, ?_⟩
      · rw [factIds_append, factIds_superseded, ← factIds_append]
        exact hids _
      · intro fact hfact hactive
        rcases List.mem_append.mp hfact with hfact | hfact
        · obtain ⟨prior, -, rfl⟩ := List.mem_map.mp hfact
          simp at hactive
        · rw [List.mem_singleton.mp hfact]
          exact .inr rfl
    · refine ⟨_, List.append_assoc _ _ _, .inr (hids _), ?_⟩
      intro fact hfact _
      rcases List.mem_append.mp hfact with hfact | hfact
      · exact .inl ⟨fact, (mem_conflictingActiveFacts.mp hfact).1, rfl, rfl, rfl⟩
      · rw [List.mem_singleton.mp hfact]
        exact .inr rfl

variable (platform) in
lemma factIds_applyUpsertCall (state : ProfileFactState) (call : UpsertCall) :
    (factIds (applyUpsertCall platform state call).facts).Perm (factIds state.facts) ∨
      (factIds (applyUpsertCall platform state call).facts).Perm
        (call.readings.newId :: factIds state.facts) := by
  cases hterms : call.terms platform with
  | none =>
      rw [applyUpsertCall_of_none hterms]
      exact .inl (.refl _)
  | some terms =>
      obtain ⟨rest, hfacts, hids, -⟩ := upsert_rewritten state hterms
      have hsplit : (factIds (activeFactsOf terms.key state.facts) ++
          factIds (state.facts.filter (!isActiveOf terms.key ·))).Perm (factIds state.facts) := by
        rw [← factIds_append]
        exact (List.filter_append_perm _ _).map _
      rw [hfacts, factIds_append]
      rcases hids with hids | hids
      · exact .inl ((List.perm_append_comm.trans (hids.append_right _)).trans hsplit)
      · exact .inr ((List.perm_append_comm.trans (hids.append_right _)).trans (hsplit.cons _))

lemma supersededFacts_applyUpsertCall (state : ProfileFactState) (call : UpsertCall) :
    (supersededFacts state.facts).Sublist
      (supersededFacts (applyUpsertCall platform state call).facts) := by
  cases hterms : call.terms platform with
  | none => rw [applyUpsertCall_of_none hterms]
  | some terms =>
      obtain ⟨rest, hfacts, -⟩ := upsert_rewritten state hterms
      have huntouched : supersededFacts (state.facts.filter (!isActiveOf terms.key ·)) =
          supersededFacts state.facts := by
        rw [supersededFacts, supersededFacts, List.filter_filter]
        refine List.filter_congr fun fact _ => ?_
        by_cases hactive : isActiveFact fact = true
        · simp [hactive]
        · simp [isActiveOf, hactive]
      rw [hfacts, ← huntouched, supersededFacts, supersededFacts, List.filter_append]
      exact List.sublist_append_left _ _

lemma active_applyUpsertCall {fact : ProfileFactRecord}
    (hmem : fact ∈ (applyUpsertCall platform state call).facts)
    (hactive : isActiveFact fact = true) :
    (∃ prior ∈ state.facts, isActiveFact prior = true ∧ SameFact prior fact) ∨
      fact.id = call.readings.newId := by
  cases hterms : call.terms platform with
  | none =>
      rw [applyUpsertCall_of_none hterms] at hmem
      exact .inl ⟨fact, hmem, hactive, rfl, rfl, rfl⟩
  | some terms =>
      obtain ⟨rest, hfacts, -, horigin⟩ := upsert_rewritten state hterms
      rw [hfacts] at hmem
      rcases List.mem_append.mp hmem with huntouched | hrest
      · exact .inl ⟨fact, List.mem_of_mem_filter huntouched, hactive, rfl, rfl, rfl⟩
      · rcases horigin fact hrest hactive with ⟨prior, hprior, hsame⟩ | hid
        · have hprior := mem_activeFactsOf.mp hprior
          exact .inl ⟨prior, hprior.1, hprior.2.1, hsame⟩
        · exact .inr hid

/-! ## Runs -/

/-- The ids drawn by a sequence of calls. -/
def newIds (calls : List UpsertCall) : List String :=
  calls.map (·.readings.newId)

lemma applyUpserts_append (start : ProfileFactState) (before after : List UpsertCall) :
    applyUpserts platform start (before ++ after) =
      applyUpserts platform (applyUpserts platform start before) after :=
  List.foldl_append

lemma supersededFacts_applyUpserts (start : ProfileFactState) (calls : List UpsertCall) :
    (supersededFacts start.facts).Sublist
      (supersededFacts (applyUpserts platform start calls).facts) := by
  induction calls generalizing start with
  | nil => exact List.Sublist.refl _
  | cons call calls ih => exact (supersededFacts_applyUpsertCall start call).trans (ih _)

lemma active_applyUpserts {start : ProfileFactState} {calls : List UpsertCall}
    {fact : ProfileFactRecord} (hmem : fact ∈ (applyUpserts platform start calls).facts)
    (hactive : isActiveFact fact = true) :
    (∃ prior ∈ start.facts, isActiveFact prior = true ∧ SameFact prior fact) ∨
      fact.id ∈ newIds calls := by
  induction calls generalizing start with
  | nil => exact .inl ⟨fact, hmem, hactive, rfl, rfl, rfl⟩
  | cons call calls ih =>
      rcases ih hmem with ⟨middle, hmiddle, hmiddleActive, hsame⟩ | hid
      · rcases active_applyUpsertCall hmiddle hmiddleActive with ⟨prior, hprior, hpriorActive,
          hfirst⟩ | hid
        · exact .inl ⟨prior, hprior, hpriorActive, hfirst.1.trans hsame.1,
            hfirst.2.1.trans hsame.2.1, hfirst.2.2.trans hsame.2.2⟩
        · exact .inr (List.mem_cons.mpr (.inl (hsame.1.symm.trans hid)))
      · exact .inr (List.mem_cons_of_mem _ hid)

variable (platform) in
/-- Where the drawn ids are new, no id occurs twice, and each is an old or a drawn one. -/
lemma factIds_applyUpserts (start : ProfileFactState) {calls : List UpsertCall}
    (hnodup : (factIds start.facts ++ newIds calls).Nodup) :
    (factIds (applyUpserts platform start calls).facts).Nodup ∧
      ∀ id ∈ factIds (applyUpserts platform start calls).facts,
        id ∈ factIds start.facts ++ newIds calls := by
  induction calls generalizing start with
  | nil => simpa [newIds, applyUpserts] using hnodup
  | cons call calls ih =>
      have hsplit : (factIds start.facts ++ newIds (call :: calls)).Perm
          (call.readings.newId :: factIds start.facts ++ newIds calls) := List.perm_middle
      have hdrawn := hsplit.nodup_iff.mp hnodup
      rcases factIds_applyUpsertCall platform start call with hids | hids
      · have hsame : (factIds (applyUpsertCall platform start call).facts ++ newIds calls).Perm
            (factIds start.facts ++ newIds calls) := hids.append_right _
        obtain ⟨hrest, hmem⟩ := ih _ (hsame.nodup_iff.mpr (List.nodup_cons.mp hdrawn).2)
        refine ⟨hrest, fun id hid => hsplit.mem_iff.mpr (List.mem_cons_of_mem _ ?_)⟩
        exact hsame.mem_iff.mp (hmem id hid)
      · have hmore : (factIds (applyUpsertCall platform start call).facts ++ newIds calls).Perm
            (call.readings.newId :: factIds start.facts ++ newIds calls) := hids.append_right _
        obtain ⟨hrest, hmem⟩ := ih _ (hmore.nodup_iff.mpr hdrawn)
        exact ⟨hrest, fun id hid => hsplit.mem_iff.mpr (hmore.mem_iff.mp (hmem id hid))⟩

/-- A batch of candidates is a sequence of upserts of those it keeps. -/
theorem applyProfileFactCandidates_run {candidates : List ProfileFactUpsertInput}
    {readings : ℕ → UpsertReadings} {result : ProfileFactCandidateApplyResult}
    (happly : applyProfileFactCandidates platform state candidates readings = some result) :
    ∃ calls : List UpsertCall,
      calls.map (·.input) = dedupeProfileFactCandidates platform candidates ∧
        result.nextState = applyUpserts platform state calls := by
  have hfrom : ∀ (kept : List ProfileFactUpsertInput) (start : ProfileFactCandidateApplyResult)
      (readings : ℕ → UpsertReadings), applyFrom platform start readings kept = some result →
        ∃ calls : List UpsertCall, calls.map (·.input) = kept ∧
          result.nextState = applyUpserts platform start.nextState calls := by
    intro kept
    induction kept with
    | nil =>
        intro start readings hrun
        cases hrun
        exact ⟨[], rfl, rfl⟩
    | cons candidate kept ih =>
        intro start readings hrun
        obtain ⟨upserted, hupsert, hrest⟩ := Option.bind_eq_some_iff.mp hrun
        obtain ⟨calls, hinputs, hnext⟩ := ih _ _ hrest
        refine ⟨⟨candidate, readings 0⟩ :: calls, by rw [List.map_cons, hinputs], ?_⟩
        have hcall : applyUpsertCall platform start.nextState ⟨candidate, readings 0⟩ =
            upserted.nextState := by
          rw [applyUpsertCall, hupsert]
          rfl
        rw [hnext, applyUpserts, applyUpserts, List.foldl_cons, hcall]
  exact hfrom _ ⟨state, 0, 0⟩ readings happly

/-- What the active facts of a ledger satisfy after the calls. -/
structure FactLedger (platform : BridgePlatform) (calls : List UpsertCall)
    (facts : List ProfileFactRecord) : Prop where
  distinctValues : ∀ key, (normalizedValues (activeFactsOf key facts)).Nodup
  replaceFamilies : ∀ key,
    (∀ call ∈ calls, ∀ terms ∈ call.terms platform, terms.key = key →
      terms.displacementPolicy = .replaceAuthoritativeSuccessor ∨
        terms.displacementPolicy = .resolutionOnly) →
    (activeFactsOf key facts).length ≤ 1
  preserveFamilies : ∀ key,
    (∀ call ∈ calls, ∀ terms ∈ call.terms platform, terms.key = key →
      terms.displacementPolicy = .preservePriorOnConflict) →
    (confirmedFacts (activeFactsOf key facts)).length ≤ 1

/-- What is superseded earlier is there later, unchanged; what is active later was active
earlier or has an id drawn in between. -/
structure SupersededForever (between : List UpsertCall)
    (earlier later : List ProfileFactRecord) : Prop where
  unchanged : (supersededFacts earlier).Sublist (supersededFacts later)
  origin : ∀ fact ∈ later, isActiveFact fact = true →
    (∃ prior ∈ earlier, isActiveFact prior = true ∧ SameFact prior fact) ∨
      fact.id ∈ newIds between

lemma factLedger_applyUpserts (startedAt : String) (calls : List UpsertCall) :
    FactLedger platform calls (applyUpserts platform (.empty startedAt) calls).facts where
  distinctValues key := by
    refine activeFactsOf_of_run (Q := fun facts => (normalizedValues facts).Nodup) ?_
      List.nodup_nil
    exact fun call _ terms _ _ facts next houtcome => houtcome.nodup_values
  replaceFamilies key hfamilies := by
    refine activeFactsOf_of_run (Q := fun facts => facts.length ≤ 1) ?_ (Nat.zero_le _)
    intro call hcall terms hterms hkey facts next houtcome _
    exact houtcome.length_le_one (hfamilies call hcall terms hterms hkey)
  preserveFamilies key hfamilies := by
    refine activeFactsOf_of_run (Q := fun facts => (confirmedFacts facts).length ≤ 1) ?_
      (Nat.zero_le _)
    intro call hcall terms hterms hkey facts next houtcome
    exact houtcome.confirmed_le_one (hfamilies call hcall terms hterms hkey)

variable (platform) in
lemma supersededForever_applyUpserts (start : ProfileFactState) (between : List UpsertCall) :
    SupersededForever between start.facts (applyUpserts platform start between).facts where
  unchanged := supersededFacts_applyUpserts start between
  origin _ hmem hactive := active_applyUpserts hmem hactive

/-- After any sequence of upserts the active values of a key are distinct, one value is active
where values replace each other, one is confirmed where the prior value is preserved, and what
was superseded stays as it was; where the drawn ids are distinct, no superseded id is that of
an active fact. -/
theorem factLedger_of_run (startedAt : String) (calls : List UpsertCall) :
    FactLedger platform calls (applyUpserts platform (.empty startedAt) calls).facts ∧
      ∀ before between, calls = before ++ between →
        SupersededForever between (applyUpserts platform (.empty startedAt) before).facts
          (applyUpserts platform (.empty startedAt) calls).facts ∧
        ((newIds calls).Nodup →
          ∀ fact ∈ supersededFacts (applyUpserts platform (.empty startedAt) before).facts,
            ∀ other ∈ (applyUpserts platform (.empty startedAt) calls).facts,
              isActiveFact other = true → other.id ≠ fact.id) := by
  refine ⟨factLedger_applyUpserts startedAt calls, ?_⟩
  rintro before between rfl
  rw [applyUpserts_append]
  have hforever := supersededForever_applyUpserts platform
    (applyUpserts platform (.empty startedAt) before) between
  refine ⟨hforever, fun hnodup fact hfact other hother hactive hid => ?_⟩
  obtain ⟨hmem, hsuperseded⟩ := List.mem_filter.mp hfact
  rw [newIds, List.map_append] at hnodup
  have hbefore := List.nodup_append.mp hnodup
  obtain ⟨hids, hdrawn⟩ := factIds_applyUpserts platform (.empty startedAt) hbefore.1
  rcases hforever.origin other hother hactive with ⟨prior, hprior, hpriorActive, hsame⟩ | hnew
  · -- The ids before are distinct, so the active and the superseded fact would be one.
    have heq : prior = fact :=
      List.inj_on_of_nodup_map hids hprior hmem (hsame.1.trans hid)
    subst heq
    simp [hpriorActive] at hsuperseded
  · have hold : fact.id ∈ newIds before := hdrawn fact.id (List.mem_map_of_mem hmem)
    exact hbefore.2.2 fact.id hold other.id hnew hid.symm

end AgentBigBrain.Core
