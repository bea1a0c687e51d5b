import AgentBigBrain.Core.CurrentRequest

/-!
# What the text of a user can do to its envelope

The runtime writes its part of an execution input in front of the request marker and the text of
the user behind it. The metadata is read off the runtime's part alone. The active request is what
stands behind the last request marker, which may be one in the text itself.
-/
namespace AgentBigBrain.Core

open AgentBigBrain.Js AgentBigBrain.Lib

/-- An execution input with the text of a user behind what the runtime wrote. -/
def requestEnvelope (machinePart userText : List Char) : List Char :=
  machinePart ++ (CURRENT_USER_REQUEST_MARKER ++ '\n' :: userText)

/-! ## White space -/

/-- `text.trimEnd()`. -/
def trimEnd (cs : List Char) : List Char := (cs.reverse.dropWhile isWhitespace).reverse

lemma trimEnd_begins (cs : List Char) : trimEnd cs <+: cs := by
  have h := List.reverse_prefix.mpr (List.dropWhile_suffix (l := cs.reverse) isWhitespace)
  rwa [List.reverse_reverse] at h

/-- Trimming the end stops at a character that is no white space. -/
lemma trimEnd_append {front rest : List Char} (h : ∃ c ∈ rest, isWhitespace c = false) :
    trimEnd (front ++ rest) = front ++ trimEnd rest := by
  have hne : rest.reverse.dropWhile isWhitespace ≠ [] := by
    intro hnil
    obtain ⟨c, hc, hsolid⟩ := h
    have hall := List.dropWhile_eq_nil_iff.mp hnil c (List.mem_reverse.mpr hc)
    rw [hsolid] at hall
    cases hall
  rw [trimEnd, List.reverse_append, List.dropWhile_append, if_neg (by simpa using hne),
    List.reverse_append, List.reverse_reverse, trimEnd]

lemma trimEnd_trimEnd (cs : List Char) : trimEnd (trimEnd cs) = trimEnd cs := by
  rw [trimEnd, trimEnd, List.reverse_reverse]
  congr 1
  exact dropWhile_of_head (head_dropWhile _)

lemma trimChars_eq (cs : List Char) : trimChars cs = trimEnd (cs.dropWhile isWhitespace) := rfl

/-- White space at the end of a text does not matter to its trimmed form. -/
lemma trimChars_trimEnd (cs : List Char) : trimChars (trimEnd cs) = trimChars cs := by
  by_cases hsolid : ∃ c ∈ cs.dropWhile isWhitespace, isWhitespace c = false
  · have hsplit : cs.takeWhile isWhitespace ++ cs.dropWhile isWhitespace = cs :=
      List.takeWhile_append_dropWhile
    have hblank : ∀ c ∈ cs.takeWhile isWhitespace, isWhitespace c = true :=
      fun c hc => List.mem_takeWhile_imp hc
    have hend : trimEnd cs =
        cs.takeWhile isWhitespace ++ trimEnd (cs.dropWhile isWhitespace) := by
      rw [← trimEnd_append hsolid, hsplit]
    have hhead : ∀ c ∈ (trimEnd (cs.dropWhile isWhitespace)).head?, isWhitespace c = false :=
      head_reverse_dropWhile (head_dropWhile cs)
    rw [trimChars_eq, hend, List.dropWhile_append_of_pos hblank, dropWhile_of_head hhead,
      trimEnd_trimEnd, trimChars_eq]
  · have hall : ∀ c ∈ cs, isWhitespace c = true := by
      intro c hc
      by_contra hnot
      rw [← List.takeWhile_append_dropWhile (p := isWhitespace) (l := cs), List.mem_append] at hc
      rcases hc with htake | hdrop
      · exact hnot (List.mem_takeWhile_imp htake)
      · exact hsolid ⟨c, hdrop, by simpa using hnot⟩
    have hnil : trimEnd cs = [] := by
      rw [trimEnd, List.reverse_eq_nil_iff, List.dropWhile_eq_nil_iff]
      exact fun c hc => hall c (List.mem_reverse.mp hc)
    have hdrop : cs.dropWhile isWhitespace = [] := List.dropWhile_eq_nil_iff.mpr hall
    rw [hnil, trimChars_eq cs, hdrop]
    rfl

/-- A text around a part with solid ends is trimmed before and behind the part. -/
lemma trimChars_around {front mid rest : List Char} (hne : mid ≠ [])
    (hhead : ∀ c ∈ mid.head?, isWhitespace c = false) (hsolid : ∃ c ∈ mid, isWhitespace c = false)
    (hlast : trimEnd mid = mid) :
    trimChars (front ++ (mid ++ rest)) =
      front.dropWhile isWhitespace ++ (mid ++ trimEnd rest) := by
  have hend : trimEnd (mid ++ rest) = mid ++ trimEnd rest := by
    by_cases hrest : ∃ c ∈ rest, isWhitespace c = false
    · exact trimEnd_append hrest
    · have hall : ∀ c ∈ rest.reverse, isWhitespace c = true := by
        intro c hc
        by_contra hnot
        exact hrest ⟨c, List.mem_reverse.mp hc, by simpa using hnot⟩
      have hnil : rest.reverse.dropWhile isWhitespace = [] := List.dropWhile_eq_nil_iff.mpr hall
      rw [trimEnd, List.reverse_append, List.dropWhile_append_of_pos hall, ← trimEnd, hlast,
        trimEnd, hnil, List.reverse_nil, List.append_nil]
  have hdrop : (mid ++ rest).dropWhile isWhitespace = mid ++ rest := by
    refine dropWhile_of_head fun c hc => hhead c ?_
    cases mid with
    | nil => exact absurd rfl hne
    | cons d mid => exact hc
  have hsolidTail : ∃ c ∈ mid ++ rest, isWhitespace c = false := by
    obtain ⟨c, hc, h⟩ := hsolid
    exact ⟨c, List.mem_append_left _ hc, h⟩
  rw [trimChars_eq, List.dropWhile_append]
  split_ifs with hfront
  · rw [hdrop, hend, List.isEmpty_iff.mp hfront, List.nil_append]
  · rw [trimEnd_append hsolidTail, hend]

/-! ## Markers -/

variable (host : RequestHost)

/-- The text as the source reads it when it looks for markers has none of them. -/
def FreeOfMarkers (text : List Char) : Prop :=
  ∀ marker ∈ requestMarkers,
    ¬ host.caseMapping.lower marker <:+: host.caseMapping.lower text

instance (text : List Char) : Decidable (FreeOfMarkers host text) := by
  unfold FreeOfMarkers
  infer_instance

lemma lower_marker {marker : List Char} (h : marker ∈ requestMarkers) :
    host.caseMapping.lower marker = marker.map Char.toLower := by
  have hascii : ∀ word ∈ requestMarkers, (word.all fun c => decide (c.toNat < 128)) = true := by
    decide
  exact host.caseMapping.lower_of_ascii fun c hc =>
    of_decide_eq_true (List.all_eq_true.mp (hascii marker h) c hc)

lemma endsIn_marker {marker : List Char} (h : marker ∈ requestMarkers) :
    EndsIn ':' (host.caseMapping.lower marker) := by
  have hends : ∀ word ∈ requestMarkers, word.map Char.toLower =
      (word.map Char.toLower).dropLast ++ [':'] ∧ ':' ∉ (word.map Char.toLower).dropLast := by
    decide
  rw [lower_marker host h]
  exact ⟨_, hends marker h⟩

/-- No marker ends in the marker of the current request. -/
lemma eq_of_currentRequest_suffix {marker : List Char} (h : marker ∈ requestMarkers)
    (hsuffix : host.caseMapping.lower CURRENT_USER_REQUEST_MARKER <:+
      host.caseMapping.lower marker) :
    host.caseMapping.lower marker = host.caseMapping.lower CURRENT_USER_REQUEST_MARKER := by
  have hcurrent : CURRENT_USER_REQUEST_MARKER ∈ requestMarkers := by decide
  rw [lower_marker host h, lower_marker host hcurrent] at hsuffix ⊢
  revert hsuffix
  have hall : ∀ word ∈ requestMarkers,
      CURRENT_USER_REQUEST_MARKER.map Char.toLower <:+ word.map Char.toLower →
        word.map Char.toLower = CURRENT_USER_REQUEST_MARKER.map Char.toLower := by
    decide
  exact hall marker h

lemma FreeOfMarkers.of_suffix {text part : List Char} (h : FreeOfMarkers host text)
    (hpart : part <:+ text) : FreeOfMarkers host part := by
  obtain ⟨front, rfl⟩ := hpart
  intro marker hmarker hwithin
  exact h marker hmarker
    (hwithin.trans (host.caseMapping.lower_infix (List.suffix_append front part).isInfix))

/-! ## What is read of an envelope -/

/-- What is left of the runtime's part once the envelope is unwrapped. -/
def machineText (machinePart : List Char) : List Char :=
  let trimmed := machinePart.dropWhile isWhitespace
  if AUTONOMOUS_EXECUTION_PREFIX.isPrefixOf trimmed then
    (trimmed.drop AUTONOMOUS_EXECUTION_PREFIX.length).dropWhile isWhitespace
  else trimmed

lemma machineText_suffix (machinePart : List Char) : machineText machinePart <:+ machinePart := by
  unfold machineText
  dsimp only
  split_ifs
  · exact (List.dropWhile_suffix _).trans
      ((List.drop_suffix _ _).trans (List.dropWhile_suffix _))
  · exact List.dropWhile_suffix _

lemma trimChars_currentRequest (front rest : List Char) :
    trimChars (front ++ (CURRENT_USER_REQUEST_MARKER ++ rest)) =
      front.dropWhile isWhitespace ++ (CURRENT_USER_REQUEST_MARKER ++ trimEnd rest) :=
  trimChars_around (by decide) (fun _ hc => Option.some.inj hc ▸ by decide)
    ⟨'C', by decide, by decide⟩ (by decide)

/-- The prefix of an autonomous goal does not reach into the marker. -/
lemma autonomousPrefix_isPrefixOf (front rest : List Char) :
    AUTONOMOUS_EXECUTION_PREFIX.isPrefixOf (front ++ (CURRENT_USER_REQUEST_MARKER ++ rest)) =
      AUTONOMOUS_EXECUTION_PREFIX.isPrefixOf front := by
  have hcut : ∀ word : List Char, 'C' ∉ word →
      word.isPrefixOf (front ++ 'C' :: (CURRENT_USER_REQUEST_MARKER.tail ++ rest)) =
        word.isPrefixOf front := by
    induction front with
    | nil =>
        intro word hword
        cases word with
        | nil => rfl
        | cons c word =>
            have hne : c ≠ 'C' := fun hc => hword (by rw [hc]; exact List.mem_cons_self)
            simp [List.isPrefixOf, hne]
    | cons d front ih =>
        intro word hword
        cases word with
        | nil => simp [List.isPrefixOf]
        | cons c word =>
            have hrest := ih word fun hmem => hword (List.mem_cons_of_mem _ hmem)
            simp [List.isPrefixOf, hrest]
  exact hcut AUTONOMOUS_EXECUTION_PREFIX (by decide)

/-- The payload of an autonomous goal that is an envelope is no JSON. -/
lemma parseJson_envelope (front rest : List Char) :
    host.parseJson (front ++ (CURRENT_USER_REQUEST_MARKER ++ trimEnd ('\n' :: rest))) = none := by
  have hhead : ∀ d ∈ (trimEnd ('\n' :: rest)).head?, d = '\n' := by
    intro d hd
    obtain ⟨tail, htail⟩ := trimEnd_begins ('\n' :: rest)
    cases htrim : trimEnd ('\n' :: rest) with
    | nil => simp [htrim] at hd
    | cons e es =>
        rw [htrim, List.cons_append] at htail
        rw [htrim, List.head?_cons, Option.mem_some_iff] at hd
        rw [← hd]
        exact (List.cons_eq_cons.mp htail).1
  have hlabel := host.parseJson_label (front ++ "Current user reques".toList) 't' _ (by decide)
    hhead
  have hsplit : CURRENT_USER_REQUEST_MARKER = "Current user reques".toList ++ ['t', ':'] := by
    decide
  simpa [hsplit] using hlabel

/-- An unwrapped envelope still has the marker behind the runtime's part. -/
theorem extractExecutionContextPayload_envelope (machinePart userText : List Char) :
    extractExecutionContextPayload host (requestEnvelope machinePart userText) =
      machineText machinePart ++
        (CURRENT_USER_REQUEST_MARKER ++ trimEnd ('\n' :: userText)) := by
  have hne : ∀ front : List Char,
      front ++ (CURRENT_USER_REQUEST_MARKER ++ trimEnd ('\n' :: userText)) ≠ [] := by
    intro front hnil
    have hmarker := (List.append_eq_nil_iff.mp (List.append_eq_nil_iff.mp hnil).2).1
    exact absurd hmarker (by decide)
  unfold extractExecutionContextPayload requestEnvelope
  rw [trimChars_currentRequest, if_neg (hne _), extractAutonomousExecutionPayload,
    autonomousPrefix_isPrefixOf]
  unfold machineText
  dsimp only
  split_ifs with hleads hblank
  · obtain ⟨behind, hbehind⟩ := List.isPrefixOf_iff_prefix.mp hleads
    rw [← hbehind, List.append_assoc, List.drop_left, trimChars_currentRequest,
      trimEnd_trimEnd] at hblank
    exact absurd hblank (hne _)
  · obtain ⟨behind, hbehind⟩ := List.isPrefixOf_iff_prefix.mp hleads
    rw [← hbehind, List.append_assoc, List.drop_left, List.drop_left, trimChars_currentRequest,
      trimEnd_trimEnd, parseJson_envelope]
    rfl
  · rfl

/-! ## The metadata -/

/-- The trusted prefix of an unwrapped envelope is the runtime's part. -/
lemma machinePrefix_of_marker {front rest : List Char} (hfree : FreeOfMarkers host front)
    (hdotted : dottedI ∉ front) :
    extractMachineAuthoredPrefixBeforeActiveRequest host
      (front ++ (CURRENT_USER_REQUEST_MARKER ++ rest)) = some (trimChars front) := by
  have hcurrent : CURRENT_USER_REQUEST_MARKER ∈ requestMarkers := by decide
  have hsize := host.caseMapping.size_lower hdotted
  have hfirst : (requestMarkers.filterMap fun marker =>
      indexOf (host.caseMapping.lower marker)
        (host.caseMapping.lower (front ++ (CURRENT_USER_REQUEST_MARKER ++ rest)))).min? =
      some (size unitCount front) := by
    rw [List.min?_eq_some_iff]
    simp only [CaseMapping.lower_append, ← hsize]
    constructor
    · rw [List.mem_filterMap]
      exact ⟨_, hcurrent, (endsIn_marker host hcurrent).firstOffset_self (hfree _ hcurrent)⟩
    · intro offset hoffset
      obtain ⟨marker, hmarker, hplace⟩ := List.mem_filterMap.mp hoffset
      exact (endsIn_marker host hmarker).le_firstOffset (endsIn_marker host hcurrent)
        (eq_of_currentRequest_suffix host hmarker) (hfree marker hmarker) offset hplace
  unfold extractMachineAuthoredPrefixBeforeActiveRequest
  dsimp only
  rw [hfirst, Option.map_some, takeUnits_size]

/-- The trusted metadata is read off the trusted prefix. -/
lemma trustedMetadata_congr {userInput otherInput : List Char} (marker : List Char)
    (hinput : extractExecutionContextPayload host userInput ≠ [])
    (hother : extractExecutionContextPayload host otherInput ≠ [])
    (hleads : extractMachineAuthoredPrefixBeforeActiveRequest host
        (extractExecutionContextPayload host userInput) =
      extractMachineAuthoredPrefixBeforeActiveRequest host
        (extractExecutionContextPayload host otherInput)) :
    extractTrustedMetadataPayload host userInput marker =
      extractTrustedMetadataPayload host otherInput marker := by
  unfold extractTrustedMetadataPayload
  dsimp only
  rw [if_neg hinput, if_neg hother, hleads]

lemma extractExecutionContextPayload_ne_nil (machinePart userText : List Char) :
    extractExecutionContextPayload host (requestEnvelope machinePart userText) ≠ [] := by
  rw [extractExecutionContextPayload_envelope]
  intro hnil
  have hmarker := (List.append_eq_nil_iff.mp (List.append_eq_nil_iff.mp hnil).2).1
  exact absurd hmarker (by decide)

/-- What is trusted in an envelope does not depend on the text of the user. -/
lemma trustedMetadata_envelope {machinePart : List Char} (hfree : FreeOfMarkers host machinePart)
    (hdotted : dottedI ∉ machinePart) (userText otherText marker : List Char) :
    extractTrustedMetadataPayload host (requestEnvelope machinePart userText) marker =
      extractTrustedMetadataPayload host (requestEnvelope machinePart otherText) marker := by
  have hsuffix := machineText_suffix machinePart
  have hleads : ∀ text, extractMachineAuthoredPrefixBeforeActiveRequest host
      (extractExecutionContextPayload host (requestEnvelope machinePart text)) =
        some (trimChars (machineText machinePart)) := by
    intro text
    rw [extractExecutionContextPayload_envelope]
    exact machinePrefix_of_marker host (hfree.of_suffix host hsuffix)
      fun hmem => hdotted (hsuffix.subset hmem)
  exact trustedMetadata_congr host marker (extractExecutionContextPayload_ne_nil host _ _)
    (extractExecutionContextPayload_ne_nil host _ _) ((hleads userText).trans
      (hleads otherText).symm)

/-- All the resolved values are read off the trusted metadata. -/
lemma resolvedRequest_congr {userInput otherInput : List Char}
    (h : ∀ marker, extractTrustedMetadataPayload host userInput marker =
      extractTrustedMetadataPayload host otherInput marker) :
    resolvedRequest host userInput = resolvedRequest host otherInput := by
  have hsupported : ∀ marker label supported,
      extractSupportedMetadata host marker label supported userInput =
        extractSupportedMetadata host marker label supported otherInput := by
    intro marker label supported
    unfold extractSupportedMetadata
    rw [h marker]
  unfold resolvedRequest extractResolvedSemanticRouteId extractResolvedBuildFormat
    extractResolvedRouteMemoryIntent extractResolvedRouteSourceAuthority
    extractResolvedRuntimeControlIntent extractResolvedRouteExecutionMode
    extractResolvedRouteContinuationKind extractResolvedRouteConstraints
  simp only [hsupported, h RESOLVED_SEMANTIC_ROUTE_MARKER]

/-! ## The part of a text behind its last request marker -/

/-- The part behind the last request marker of a text. -/
def behindLastMarker : List Char → Option (List Char)
  | [] => none
  | c :: cs =>
      match behindLastMarker cs with
      | some part => some part
      | none =>
          if host.caseMapping.lower CURRENT_USER_REQUEST_MARKER <+:
              host.caseMapping.lower (c :: cs) then
            some ((c :: cs).drop CURRENT_USER_REQUEST_MARKER.length)
          else none

/-- What a text asks for: the part behind its last request marker, or all of it. -/
def askedText (userText : List Char) : List Char :=
  (behindLastMarker host userText).getD userText

/-- What stands in front of the asked part. -/
def skippedText (userText : List Char) : List Char :=
  userText.take (userText.length - (askedText host userText).length)

/-- A lower-case word at the begin of a text comes from as many characters of the text. -/
lemma lower_take_of_prefix {word text : List Char} (hi : 'i' ∉ word)
    (h : word <+: host.caseMapping.lower text) :
    host.caseMapping.lower (text.take word.length) = word ∧
      dottedI ∉ text.take word.length := by
  induction word generalizing text with
  | nil => simp
  | cons c word ih =>
      cases text with
      | nil => simp at h
      | cons d text =>
          have hstep : host.caseMapping.lower (d :: text) =
            host.caseMapping.lowered d ++ host.caseMapping.lower text := rfl
          by_cases hd : d = dottedI
          · exfalso
            rw [hstep, CaseMapping.lowered, if_pos hd] at h
            have hc : c = 'i' := (List.cons_prefix_cons.mp h).1
            exact hi (by rw [hc]; exact List.mem_cons_self)
          · rw [hstep, CaseMapping.lowered, if_neg hd] at h
            obtain ⟨hc, hrest⟩ := List.cons_prefix_cons.mp h
            obtain ⟨hlower, hnot⟩ := ih (fun hmem => hi (List.mem_cons_of_mem _ hmem)) hrest
            have htake : host.caseMapping.lower (d :: text.take word.length) =
              host.caseMapping.lowered d ++ host.caseMapping.lower (text.take word.length) := rfl
            constructor
            · rw [List.length_cons, List.take_succ_cons, htake, hlower, CaseMapping.lowered,
                if_neg hd, hc]
              rfl
            · rw [List.length_cons, List.take_succ_cons, List.mem_cons, not_or]
              exact ⟨Ne.symm hd, hnot⟩

/-- A marker that begins at no character of a text does not stand in it. -/
lemma not_infix_lower_cons {c : Char} {cs : List Char}
    (hrest : ¬ host.caseMapping.lower CURRENT_USER_REQUEST_MARKER <:+: host.caseMapping.lower cs)
    (hhere : ¬ host.caseMapping.lower CURRENT_USER_REQUEST_MARKER <+:
      host.caseMapping.lower (c :: cs)) :
    ¬ host.caseMapping.lower CURRENT_USER_REQUEST_MARKER <:+:
      host.caseMapping.lower (c :: cs) := by
  have hcurrent : CURRENT_USER_REQUEST_MARKER ∈ requestMarkers := by decide
  have hstep : host.caseMapping.lower (c :: cs) =
    host.caseMapping.lowered c ++ host.caseMapping.lower cs := rfl
  rw [hstep] at hhere ⊢
  intro hwithin
  unfold CaseMapping.lowered at hhere hwithin
  split_ifs at hhere hwithin
  · rcases List.infix_cons_iff.mp hwithin with hleads | hwithin
    · exact hhere hleads
    · rcases List.infix_cons_iff.mp hwithin with hleads | hwithin
      · -- no marker begins with a combining dot
        rw [lower_marker host hcurrent] at hleads
        exact absurd (List.cons_prefix_cons.mp hleads).1 (by decide)
      · exact hrest hwithin
  · rcases List.infix_cons_iff.mp hwithin with hleads | hwithin
    · exact hhere hleads
    · exact hrest hwithin

lemma behindLastMarker_none {text : List Char} (h : behindLastMarker host text = none) :
    ¬ host.caseMapping.lower CURRENT_USER_REQUEST_MARKER <:+: host.caseMapping.lower text := by
  induction text with
  | nil =>
      rw [lower_marker host (by decide), CaseMapping.lower_nil]
      decide
  | cons c cs ih =>
      unfold behindLastMarker at h
      cases hcs : behindLastMarker host cs with
      | some part => simp [hcs] at h
      | none =>
          simp only [hcs] at h
          split_ifs at h with hhere
          exact not_infix_lower_cons host (ih hcs) hhere

/-- The part behind the last marker, the marker and what stands in front of it. -/
lemma behindLastMarker_some {text part : List Char} (h : behindLastMarker host text = some part) :
    ∃ front marker, text = front ++ (marker ++ part) ∧
      host.caseMapping.lower marker = host.caseMapping.lower CURRENT_USER_REQUEST_MARKER ∧
      dottedI ∉ marker ∧
      ¬ host.caseMapping.lower CURRENT_USER_REQUEST_MARKER <:+: host.caseMapping.lower part := by
  induction text with
  | nil => simp [behindLastMarker] at h
  | cons c cs ih =>
      unfold behindLastMarker at h
      cases hcs : behindLastMarker host cs with
      | some found =>
          simp only [hcs] at h
          obtain ⟨front, marker, htext, hlower, hdotted, hlast⟩ := ih (hcs.trans h)
          exact ⟨c :: front, marker, by rw [htext, List.cons_append], hlower, hdotted, hlast⟩
      | none =>
          simp only [hcs] at h
          split_ifs at h with hhere
          cases h
          have hi : 'i' ∉ host.caseMapping.lower CURRENT_USER_REQUEST_MARKER := by
            rw [lower_marker host (by decide)]
            decide
          have hlength : (host.caseMapping.lower CURRENT_USER_REQUEST_MARKER).length =
              CURRENT_USER_REQUEST_MARKER.length := by
            rw [lower_marker host (by decide), List.length_map]
          obtain ⟨hlower, hdotted⟩ := lower_take_of_prefix host hi hhere
          rw [hlength] at hlower hdotted
          refine ⟨[], _, (List.take_append_drop _ _).symm, hlower, hdotted, fun hwithin => ?_⟩
          have hsuffix : (c :: cs).drop CURRENT_USER_REQUEST_MARKER.length <:+ cs := by
            have hsucc : ∃ n, CURRENT_USER_REQUEST_MARKER.length = n + 1 :=
              Nat.exists_eq_succ_of_ne_zero (by decide)
            obtain ⟨n, hn⟩ := hsucc
            rw [hn, List.drop_succ_cons]
            exact List.drop_suffix n cs
          exact behindLastMarker_none host hcs
            (hwithin.trans (host.caseMapping.lower_infix hsuffix.isInfix))

/-! ## The active request -/

/-- The section behind the last marker of a text. -/
lemma sectionAfterMarker_of_last {head marker tail : List Char}
    (hlower : host.caseMapping.lower marker = host.caseMapping.lower CURRENT_USER_REQUEST_MARKER)
    (hhead : dottedI ∉ head) (hmarker : dottedI ∉ marker)
    (hlast : ¬ host.caseMapping.lower CURRENT_USER_REQUEST_MARKER <:+:
      host.caseMapping.lower tail) :
    extractSectionAfterMarker host (head ++ (marker ++ tail)) CURRENT_USER_REQUEST_MARKER =
      if trimChars tail = [] then none else some (trimChars tail) := by
  have hends : EndsIn ':' (host.caseMapping.lower CURRENT_USER_REQUEST_MARKER) :=
    endsIn_marker host (by decide)
  have hsize : size unitCount CURRENT_USER_REQUEST_MARKER = size unitCount marker := by
    rw [← host.caseMapping.size_lower hmarker, hlower, host.caseMapping.size_lower (by decide)]
  have hindex : lastIndexOf (host.caseMapping.lower CURRENT_USER_REQUEST_MARKER)
      (host.caseMapping.lower (head ++ (marker ++ tail))) = some (size unitCount head) := by
    rw [CaseMapping.lower_append, CaseMapping.lower_append, hlower, lastIndexOf,
      lastOffset_append (hends.lastOffset_self hlast), host.caseMapping.size_lower hhead,
      Nat.add_zero]
  have hcut : dropUnits (size unitCount head + size unitCount CURRENT_USER_REQUEST_MARKER)
      (head ++ (marker ++ tail)) = tail := by
    rw [hsize, ← size_append, ← List.append_assoc, dropUnits_size]
  unfold extractSectionAfterMarker
  rw [hindex]
  dsimp only
  rw [hcut]

lemma exists_solid_of_trimChars {cs : List Char} (h : trimChars cs ≠ []) :
    ∃ c ∈ cs, isWhitespace c = false := by
  by_contra hnone
  refine h ?_
  have hall : ∀ c ∈ cs, isWhitespace c = true := by
    intro c hc
    by_contra hnot
    exact hnone ⟨c, hc, by simpa using hnot⟩
  rw [trimChars, List.dropWhile_eq_nil_iff.mpr hall]
  rfl

/-- An unwrapped envelope, split at its last request marker. -/
lemma envelope_split (machinePart : List Char) {userText : List Char}
    (hasked : trimChars (askedText host userText) ≠ []) :
    ∃ head marker tail, machineText machinePart ++
        (CURRENT_USER_REQUEST_MARKER ++ trimEnd ('\n' :: userText)) = head ++ (marker ++ tail) ∧
      host.caseMapping.lower marker = host.caseMapping.lower CURRENT_USER_REQUEST_MARKER ∧
      dottedI ∉ marker ∧
      ¬ host.caseMapping.lower CURRENT_USER_REQUEST_MARKER <:+: host.caseMapping.lower tail ∧
      trimChars tail = trimChars (askedText host userText) ∧
      (dottedI ∉ machinePart → dottedI ∉ skippedText host userText → dottedI ∉ head) := by
  have hmachine : dottedI ∉ machinePart → dottedI ∉ machineText machinePart :=
    fun h hmem => h ((machineText_suffix machinePart).subset hmem)
  cases hpart : behindLastMarker host userText with
  | none =>
      have hwhole : askedText host userText = userText := by rw [askedText, hpart]; rfl
      refine ⟨machineText machinePart, CURRENT_USER_REQUEST_MARKER, _, rfl, rfl, by decide, ?_, ?_,
        fun h _ => hmachine h⟩
      · have hfeed : host.caseMapping.lower ('\n' :: userText) =
            '\n' :: host.caseMapping.lower userText := by
          have hstep : host.caseMapping.lower ('\n' :: userText) =
            host.caseMapping.lowered '\n' ++ host.caseMapping.lower userText := rfl
          rw [hstep, CaseMapping.lowered, if_neg (by decide),
            host.caseMapping.ascii '\n' (by decide)]
          rfl
        have hhere : ¬ host.caseMapping.lower CURRENT_USER_REQUEST_MARKER <+:
            host.caseMapping.lower ('\n' :: userText) := by
          rw [hfeed, lower_marker host (by decide)]
          exact fun hleads => absurd (List.cons_prefix_cons.mp hleads).1 (by decide)
        exact fun hwithin => not_infix_lower_cons host (behindLastMarker_none host hpart) hhere
          (hwithin.trans (host.caseMapping.lower_infix (trimEnd_begins _).isInfix))
      · rw [trimChars_trimEnd, hwhole]
        rfl
  | some part =>
      obtain ⟨front, marker, htext, hlower, hdotted, hlast⟩ := behindLastMarker_some host hpart
      have hpartAsked : askedText host userText = part := by rw [askedText, hpart]; rfl
      have hsolid : ∃ c ∈ part, isWhitespace c = false :=
        exists_solid_of_trimChars (hpartAsked ▸ hasked)
      have hskipped : skippedText host userText = front ++ marker := by
        have hlength : userText.length - part.length = (front ++ marker).length := by
          rw [htext, ← List.append_assoc, List.length_append, Nat.add_sub_cancel]
        rw [skippedText, hpartAsked, hlength, htext, ← List.append_assoc, List.take_left]
      have hend : trimEnd ('\n' :: userText) = '\n' :: front ++ (marker ++ trimEnd part) := by
        have hassoc : '\n' :: userText = ('\n' :: front ++ marker) ++ part := by
          rw [htext]
          simp
        rw [hassoc, trimEnd_append hsolid, List.append_assoc]
      refine ⟨machineText machinePart ++ (CURRENT_USER_REQUEST_MARKER ++ '\n' :: front), marker,
        trimEnd part, ?_, hlower, hdotted, ?_, ?_, ?_⟩
      · rw [hend]
        simp
      · exact fun hwithin => hlast
          (hwithin.trans (host.caseMapping.lower_infix (trimEnd_begins _).isInfix))
      · rw [trimChars_trimEnd, hpartAsked]
      · intro hmachinePart hskip hmem
        rw [hskipped, List.mem_append, not_or] at hskip
        simp only [List.mem_append, List.mem_cons] at hmem
        rcases hmem with hmem | hmem | hmem | hmem
        · exact hmachine hmachinePart hmem
        · exact absurd hmem (by decide)
        · exact absurd hmem (by decide)
        · exact hskip.1 hmem

/-- The active request of an envelope is the asked part of the user's text. -/
theorem extractActiveRequestSegment_envelope {machinePart userText : List Char}
    (hdotted : dottedI ∉ machinePart) (hskipped : dottedI ∉ skippedText host userText)
    (hasked : trimChars (askedText host userText) ≠ []) :
    extractActiveRequestSegment host (requestEnvelope machinePart userText) =
      boundRequestBeforeAgentFriendSections (trimChars (askedText host userText)) := by
  obtain ⟨head, marker, tail, hsplit, hlower, hmarker, hlast, htrim, hhead⟩ :=
    envelope_split host machinePart hasked
  have hpayload := extractExecutionContextPayload_envelope host machinePart userText
  have hsection := sectionAfterMarker_of_last host hlower (hhead hdotted hskipped) hmarker hlast
  rw [htrim, if_neg hasked, ← hsplit, ← hpayload] at hsection
  unfold extractActiveRequestSegment
  dsimp only
  rw [if_neg (extractExecutionContextPayload_ne_nil host _ _), hsection]

/-! ## Lines -/

lemma joinLines_cons_cons (line next : List Char) (lines : List (List Char)) :
    joinLines (line :: next :: lines) = line ++ '\n' :: joinLines (next :: lines) := by
  simp [joinLines, List.intercalate]

lemma splitLines_ne_nil (cs : List Char) : splitLines cs ≠ [] := by
  fun_cases splitLines cs <;> simp_all

/-- Lines that end in a single line feed are joined as they were. -/
lemma joinLines_splitLines {cs : List Char} (h : ¬ ['\r', '\n'] <:+: cs) :
    joinLines (splitLines cs) = cs := by
  fun_induction splitLines cs with
  | case1 => rfl
  | case2 cs ih => exact absurd ⟨[], cs, rfl⟩ h
  | case3 cs ih =>
      have hrest : ¬ ['\r', '\n'] <:+: cs :=
        fun hwithin => h (hwithin.trans (List.suffix_cons _ _).isInfix)
      cases hlines : splitLines cs with
      | nil => exact absurd hlines (splitLines_ne_nil cs)
      | cons line lines =>
          rw [joinLines_cons_cons, ← hlines, ih hrest]
          rfl
  | case4 c cs _ _ hlines => exact absurd hlines (splitLines_ne_nil cs)
  | case5 c cs _ _ line lines hlines ih =>
      have hrest : ¬ ['\r', '\n'] <:+: cs :=
        fun hwithin => h (hwithin.trans (List.suffix_cons _ _).isInfix)
      have hjoin := ih hrest
      rw [hlines] at hjoin
      cases lines with
      | nil => rw [← hjoin]; simp [joinLines, List.intercalate]
      | cons next lines =>
          rw [joinLines_cons_cons, List.cons_append, ← joinLines_cons_cons, hjoin]

/-- Without later sections of broker packets the bound changes nothing. -/
lemma boundRequest_of_plain {cs : List Char} (htrimmed : trimChars cs = cs)
    (hbreaks : ¬ ['\r', '\n'] <:+: cs)
    (hsections : ∀ line ∈ (splitLines cs).tail, isAgentFriendSection (trimChars line) = false) :
    boundRequestBeforeAgentFriendSections cs = cs := by
  have hjoin := joinLines_splitLines hbreaks
  unfold boundRequestBeforeAgentFriendSections
  cases hlines : splitLines cs with
  | nil => exact absurd hlines (splitLines_ne_nil cs)
  | cons line lines =>
      rw [hlines] at hjoin hsections
      have hall : lines.takeWhile (fun later => !isAgentFriendSection (trimChars later)) = lines :=
        List.takeWhile_eq_self_iff.mpr fun later hlater => by simp [hsections later hlater]
      dsimp only
      rw [hall, hjoin, htrimmed]

/-! ## Blank texts -/

lemma all_blank_of_trimChars {cs : List Char} (h : trimChars cs = []) :
    ∀ c ∈ cs, isWhitespace c = true := by
  intro c hc
  by_contra hsolid
  have hdrop : ∀ d ∈ cs.dropWhile isWhitespace, isWhitespace d = true := by
    intro d hd
    rw [trimChars, List.reverse_eq_nil_iff, List.dropWhile_eq_nil_iff] at h
    exact h d (List.mem_reverse.mpr hd)
  cases htail : cs.dropWhile isWhitespace with
  | nil => exact hsolid (List.dropWhile_eq_nil_iff.mp htail c hc)
  | cons d ds =>
      have hhead := head_dropWhile cs d (by rw [htail]; rfl)
      rw [hdrop d (by rw [htail]; exact List.mem_cons_self)] at hhead
      cases hhead

lemma section_eq_none {text marker : List Char}
    (h : ¬ host.caseMapping.lower marker <:+: host.caseMapping.lower text) :
    extractSectionAfterMarker host text marker = none := by
  unfold extractSectionAfterMarker
  rw [lastIndexOf, lastOffset_eq_none h]

/-- An envelope without a text of the user is its own active request. -/
lemma extractActiveRequestSegment_blank {machinePart userText : List Char}
    (hfree : FreeOfMarkers host machinePart) (hdotted : dottedI ∉ machinePart)
    (hblank : trimChars userText = []) :
    extractActiveRequestSegment host (requestEnvelope machinePart userText) =
      machineText machinePart ++ CURRENT_USER_REQUEST_MARKER := by
  have hcurrent : CURRENT_USER_REQUEST_MARKER ∈ requestMarkers := by decide
  have hsuffix := machineText_suffix machinePart
  have hmachine : dottedI ∉ machineText machinePart := fun hmem => hdotted (hsuffix.subset hmem)
  have hend : trimEnd ('\n' :: userText) = [] := by
    rw [trimEnd, List.reverse_eq_nil_iff, List.dropWhile_eq_nil_iff]
    intro c hc
    rcases List.mem_cons.mp (List.mem_reverse.mp hc) with rfl | hc
    · decide
    · exact all_blank_of_trimChars hblank c hc
  have hpayload := extractExecutionContextPayload_envelope host machinePart userText
  rw [hend, List.append_nil] at hpayload
  have hempty : ¬ host.caseMapping.lower CURRENT_USER_REQUEST_MARKER <:+:
      host.caseMapping.lower [] := by
    rw [lower_marker host hcurrent, CaseMapping.lower_nil]
    decide
  have hown := sectionAfterMarker_of_last host rfl hmachine (by decide) hempty
  have hother : ∀ marker ∈ requestMarkers, ¬ marker.map Char.toLower <:+:
      CURRENT_USER_REQUEST_MARKER.map Char.toLower →
        extractSectionAfterMarker host (machineText machinePart ++ CURRENT_USER_REQUEST_MARKER)
          marker = none := by
    intro marker hmarker hnot
    refine section_eq_none host fun hwithin => ?_
    rw [CaseMapping.lower_append] at hwithin
    rcases (endsIn_marker host hmarker).infix_append (endsIn_marker host hcurrent)
      (eq_of_currentRequest_suffix host hmarker) hwithin with hin | hin
    · exact hfree.of_suffix host hsuffix marker hmarker hin
    · rw [lower_marker host hmarker, lower_marker host hcurrent] at hin
      exact hnot hin
  rw [List.append_nil] at hown
  unfold extractActiveRequestSegment extractAgentPulseRequestSegment
  dsimp only
  rw [if_neg (extractExecutionContextPayload_ne_nil host _ _), hpayload, hown,
    hother USER_FOLLOW_UP_ANSWER_MARKER (by decide) (by decide),
    hother USER_QUESTION_MARKER (by decide) (by decide),
    hother AGENT_PULSE_REQUEST_MARKER (by decide) (by decide)]
  rfl

/-! ## Envelopes -/

lemma behindLastMarker_eq_none {text : List Char}
    (h : ¬ host.caseMapping.lower CURRENT_USER_REQUEST_MARKER <:+: host.caseMapping.lower text) :
    behindLastMarker host text = none := by
  cases hpart : behindLastMarker host text with
  | none => rfl
  | some part =>
      obtain ⟨front, marker, htext, hlower, -, -⟩ := behindLastMarker_some host hpart
      refine absurd ?_ h
      rw [htext, CaseMapping.lower_append, CaseMapping.lower_append, hlower]
      exact ⟨_, _, List.append_assoc _ _ _⟩

/-- What an envelope is read as. The active request is the part of the user's text behind its last
request marker, without the line ends and the later sections that the bound takes away; a plain
text is read whole. The resolved values are the same for every text of the user. -/
theorem request_envelope_readings {machinePart : List Char} (hfree : FreeOfMarkers host machinePart)
    (hdotted : dottedI ∉ machinePart) (userText : List Char) :
    (dottedI ∉ skippedText host userText → trimChars (askedText host userText) ≠ [] →
      extractActiveRequestSegment host (requestEnvelope machinePart userText) =
        boundRequestBeforeAgentFriendSections (trimChars (askedText host userText))) ∧
    (¬ host.caseMapping.lower CURRENT_USER_REQUEST_MARKER <:+: host.caseMapping.lower userText →
      ¬ ['\r', '\n'] <:+: userText →
      (∀ line ∈ (splitLines (trimChars userText)).tail,
        isAgentFriendSection (trimChars line) = false) →
      trimChars userText ≠ [] →
      extractActiveRequestSegment host (requestEnvelope machinePart userText) =
        trimChars userText) ∧
    (trimChars userText = [] →
      extractActiveRequestSegment host (requestEnvelope machinePart userText) =
        machineText machinePart ++ CURRENT_USER_REQUEST_MARKER) ∧
    ∀ otherText, resolvedRequest host (requestEnvelope machinePart userText) =
      resolvedRequest host (requestEnvelope machinePart otherText) := by
  refine ⟨fun hskipped hasked => extractActiveRequestSegment_envelope host hdotted hskipped hasked,
    fun hmarker hbreaks hsections hblank => ?_,
    fun hblank => extractActiveRequestSegment_blank host hfree hdotted hblank,
    fun otherText => resolvedRequest_congr host fun marker =>
      trustedMetadata_envelope host hfree hdotted userText otherText marker⟩
  have hnone := behindLastMarker_eq_none host hmarker
  have hasked : askedText host userText = userText := by rw [askedText, hnone]; rfl
  have hskipped : skippedText host userText = [] := by
    rw [skippedText, hasked, Nat.sub_self, List.take_zero]
  have hnodot : dottedI ∉ skippedText host userText := by simp [hskipped]
  have hread := extractActiveRequestSegment_envelope host hdotted hnodot (by rwa [hasked])
  rw [hread, hasked]
  exact boundRequest_of_plain (trimChars_idem userText)
    (fun hwithin => hbreaks (hwithin.trans (trimChars_part userText))) hsections

/-- A host that knows the case of the ASCII letters and parses no JSON. -/
def plainRequestHost : RequestHost where
  caseMapping := CaseMapping.asciiLetters
  parseJson _ := none
  parseJson_label _ _ _ _ _ := rfl

def routedMachinePart : List Char :=
  "Resolved semantic route:\n- routeId: build_request\n\n".toList

/-- A text of a user that quotes the request marker. -/
def quotingUserText : List Char := "Explain\nCurrent user request:\nstop".toList

/-- A quoted marker hides what stands in front of it, but not the route. -/
theorem request_envelope_readings_quotingUserText :
    extractActiveRequestSegment plainRequestHost
        (requestEnvelope routedMachinePart quotingUserText) = "stop".toList ∧
      resolvedRequest plainRequestHost (requestEnvelope routedMachinePart quotingUserText) =
        resolvedRequest plainRequestHost (requestEnvelope routedMachinePart []) := by
  have hfree : FreeOfMarkers plainRequestHost routedMachinePart := by decide
  have hreadings := request_envelope_readings plainRequestHost hfree (by decide)
    quotingUserText
  refine ⟨?_, hreadings.2.2.2 []⟩
  rw [hreadings.1 (by decide) (by decide)]
  decide

example : (resolvedRequest plainRequestHost
    (requestEnvelope routedMachinePart quotingUserText)).routeId = some "build_request" := by
  decide +kernel

/-- A user text with the request marker in it is not returned whole. -/
theorem quoted_marker_hides_request :
    ¬ ∀ (host : RequestHost) (machinePart userText : List Char), FreeOfMarkers host machinePart →
      extractActiveRequestSegment host (requestEnvelope machinePart userText) =
          trimChars userText ∧
        ∀ otherText, resolvedRequest host (requestEnvelope machinePart userText) =
          resolvedRequest host (requestEnvelope machinePart otherText) := by
  intro hclaim
  have hwhole := (hclaim plainRequestHost routedMachinePart quotingUserText (by decide)).1
  revert hwhole
  decide

end AgentBigBrain.Core
