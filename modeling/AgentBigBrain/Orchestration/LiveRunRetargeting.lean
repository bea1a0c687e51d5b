import AgentBigBrain.Orchestration.LiveRunDependencies
import Mathlib.Data.List.Find

/-!
# Where retargeted actions point

The overrides of a run are folded from the results of its starts: the newest start of each
original port is kept. An action on such a port is pointed at the actual target of that
start, and its URL is put together again from the host, the port, the path and the query.
-/
namespace AgentBigBrain.Orchestration

open AgentBigBrain.Js AgentBigBrain.Core

/-! ## URLs -/

/-- What `new URL(text)` exposes besides the parts that the code reads. -/
structure UrlRecord extends UrlParts where
  username : String
  password : String
  hash : String

def printableHost (hostname : String) : String :=
  if hostname = "::1" then "[::1]" else hostname

/-- The parts of a URL that was put together from a loopback host, a port, and the path and the
query of another URL. -/
structure Assembled (url : UrlRecord) (hostname : String) (port : ℤ) (assembled : UrlRecord) :
    Prop where
  protocol : assembled.protocol = "http:"
  username : assembled.username = ""
  password : assembled.password = ""
  hostname : assembled.hostname = printableHost hostname
  port : assembled.port = if port = 80 then "" else toString port
  pathname : assembled.pathname = url.pathname
  search : assembled.search = url.search
  hash : assembled.hash = ""

/-- What the URL parser and the case mapping of the platform are specified to do. -/
structure WebPlatform (host : Host) where
  parse : String → Option UrlRecord
  parseUrl_eq : ∀ text, host.parseUrl text = (parse text).map UrlRecord.toUrlParts
  toLowerCase_ascii : ∀ text, text.toList.all (fun c => c.toNat < 128) = true →
    host.toLowerCase text = asciiLower text
  protocol_http : ∀ rest url, parse ("http://" ++ rest) = some url → url.protocol = "http:"
  pathname_http : ∀ text url, parse text = some url → url.protocol = "http:" →
    url.pathname.toList.head? = some '/'
  parse_out_of_range : ∀ hostname ∈ loopbackSpellings, ∀ (port : ℤ) (rest : String),
    port < 0 ∨ 65535 < port → rest.toList.head? = some '/' →
    parse ("http://" ++ printableHost hostname ++ ":" ++ toString port ++ rest) = none
  parse_assembled : ∀ text url, parse text = some url → url.protocol = "http:" →
    ∀ hostname ∈ loopbackSpellings, ∀ port : ℤ, 0 ≤ port → port ≤ 65535 →
      ∃ assembled, parse ("http://" ++ printableHost hostname ++ ":" ++ toString port ++
        (url.pathname ++ url.search)) = some assembled ∧ Assembled url hostname port assembled

variable {host : Host} (web : WebPlatform host)

/-! ## The overrides of a run -/

/-- The overrides that are held after some results. -/
def overridesOf (host : Host) (results : List ActionRunResult) : List LoopbackTargetOverride :=
  results.foldl (rememberLiveRunTargetOverride host) []

/-- The override that the newest approved start of an original port announced. -/
def latestStart (host : Host) (results : List ActionRunResult) (port : ℤ) :
    Option LoopbackTargetOverride :=
  ((results.filterMap (overrideOfResult host)).filter
    fun override => override.originalPort == port).getLast?

lemma normalizeLoopbackHost_mem {text : Option String} {name : String}
    (h : normalizeLoopbackHost host text = some name) : name ∈ loopbackSpellings := by
  unfold normalizeLoopbackHost at h
  split at h
  · cases h
  · dsimp only at h
    split_ifs at h with hname
    obtain rfl := Option.some.inj h
    simp only [loopbackSpellings, List.mem_cons, List.not_mem_nil, or_false]
    tauto

include web in
lemma normalizeLoopbackHost_loopback {name : String} (h : name ∈ loopbackSpellings) :
    normalizeLoopbackHost host (some name) = some name := by
  simp only [loopbackSpellings, List.mem_cons, List.not_mem_nil, or_false] at h
  have hname : name = "localhost" ∨ name = "127.0.0.1" ∨ name = "::1" := by tauto
  have hascii : (trim name).toList.all (fun c => c.toNat < 128) = true ∧
      stripBrackets (asciiLower (trim name)) = name := by
    rcases h with rfl | rfl | rfl <;> exact ⟨by decide, by decide⟩
  simp only [normalizeLoopbackHost, web.toLowerCase_ascii _ hascii.1, hascii.2]
  rw [if_pos hname]

include web in
lemma loopbackHostsAreEquivalent_loopback {left right : String} (hleft : left ∈ loopbackSpellings)
    (hright : right ∈ loopbackSpellings) : loopbackHostsAreEquivalent host left right = true := by
  simp [loopbackHostsAreEquivalent, normalizeLoopbackHost_loopback web hleft,
    normalizeLoopbackHost_loopback web hright]

/-- An announced override is between loopback hosts. -/
lemma overrideOfResult_hosts {result : ActionRunResult} {override : LoopbackTargetOverride}
    (h : overrideOfResult host result = some override) :
    override.originalHost ∈ loopbackSpellings ∧ override.actualHost ∈ loopbackSpellings := by
  unfold overrideOfResult at h
  simp only [Option.bind_eq_bind, Option.pure_def] at h
  split_ifs at h
  · cases h
  · simp only [Option.bind_eq_some_iff, Option.some.injEq] at h
    obtain ⟨originalHost, horiginal, -, -, actualHost, hactual, -, -, rfl⟩ := h
    refine ⟨?_, normalizeLoopbackHost_mem hactual⟩
    cases hannounced : normalizeLoopbackHost host (asString
        ((result.executionMetadata.getD JsonObject.empty).get "processOriginalRequestedHost")) with
    | none =>
        rw [hannounced] at horiginal
        exact normalizeLoopbackHost_mem horiginal
    | some name =>
        rw [hannounced] at horiginal
        obtain rfl : name = originalHost := Option.some.inj horiginal
        exact normalizeLoopbackHost_mem hannounced

lemma overridesOf_append_singleton (results : List ActionRunResult) (result : ActionRunResult) :
    overridesOf host (results ++ [result]) =
      rememberLiveRunTargetOverride host (overridesOf host results) result := by
  simp [overridesOf]

/-- What is held: loopback hosts, each original port once, the newest start of each. -/
structure HoldsLatest (host : Host) (results : List ActionRunResult)
    (overrides : List LoopbackTargetOverride) : Prop where
  hosts : ∀ override ∈ overrides, override.originalHost ∈ loopbackSpellings ∧
    override.actualHost ∈ loopbackSpellings
  ports : (overrides.map (·.originalPort)).Nodup
  latest : ∀ port, overrides.find? (fun override => override.originalPort == port) =
    latestStart host results port

include web in
/-- One more result keeps the newest start of each port. -/
lemma HoldsLatest.remember {results : List ActionRunResult}
    {overrides : List LoopbackTargetOverride} (h : HoldsLatest host results overrides)
    (result : ActionRunResult) : HoldsLatest host (results ++ [result])
      (rememberLiveRunTargetOverride host overrides result) := by
  unfold rememberLiveRunTargetOverride
  cases hresult : overrideOfResult host result with
  | none =>
      refine ⟨h.hosts, h.ports, fun port => ?_⟩
      rw [h.latest, latestStart, latestStart, List.filterMap_append]
      simp [hresult]
  | some resolved =>
      have hresolved := overrideOfResult_hosts hresult
      have hfilter : (overrides.filter fun candidate =>
          !(loopbackHostsAreEquivalent host candidate.originalHost resolved.originalHost &&
            candidate.originalPort == resolved.originalPort)) =
          overrides.filter fun candidate => candidate.originalPort != resolved.originalPort := by
        refine List.filter_congr fun candidate hmem => ?_
        rw [loopbackHostsAreEquivalent_loopback web (h.hosts candidate hmem).1 hresolved.1,
          Bool.true_and]
        rfl
      dsimp only
      rw [hfilter]
      refine ⟨?_, ?_, fun port => ?_⟩
      · intro override hmem
        rcases List.mem_cons.mp hmem with rfl | hmem
        · exact hresolved
        · exact h.hosts override (List.mem_of_mem_filter hmem)
      · rw [List.map_cons, List.nodup_cons]
        refine ⟨?_, h.ports.sublist (List.filter_sublist.map _)⟩
        intro hmem
        obtain ⟨override, hmem, hport⟩ := List.mem_map.mp hmem
        have hother := (List.mem_filter.mp hmem).2
        simp [hport] at hother
      · rw [latestStart, List.filterMap_append, List.filter_append]
        by_cases hport : resolved.originalPort = port
        · simp [hresult, hport]
        · have hkept : (overrides.filter fun candidate =>
              candidate.originalPort != resolved.originalPort).find?
                (fun override => override.originalPort == port) = latestStart host results port := by
            rw [List.find?_filter, ← h.latest]
            congr 1
            funext candidate
            by_cases hsame : candidate.originalPort = port
            · simp [hsame, Ne.symm hport]
            · simp [hsame]
          rw [List.find?_cons_of_neg (by simpa using hport), hkept, latestStart]
          simp [hresult, hport]

lemma holdsLatest_nil : HoldsLatest host [] [] where
  hosts := by simp
  ports := List.nodup_nil
  latest := fun _ => rfl

include web in
lemma holdsLatest_overridesOf (results : List ActionRunResult) :
    HoldsLatest host results (overridesOf host results) := by
  induction results using List.reverseRecOn with
  | nil => exact holdsLatest_nil
  | append_singleton results result ih =>
      rw [overridesOf_append_singleton]
      exact ih.remember web result

/-! ## Applying the overrides -/

/-- The loopback port that a probe, a verification or an opening is about. -/
def loopbackPort (host : Host) (action : PlannedAction) : Option ℤ :=
  match action.type with
  | .probePort => do
      let _ ← normalizeLoopbackHost host (asString (action.params.get "host"))
      asInteger (action.params.get "port")
  | .probeHttp | .verifyBrowser | .openBrowser =>
      (parseLoopbackUrlTarget host (action.params.get "url")).map (·.port)
  | _ => none

/-- What a loopback URL was parsed from. -/
lemma parseLoopbackUrlTarget_parts {value : Option Json} {target : ParsedLoopbackUrlTarget}
    (h : parseLoopbackUrlTarget host value = some target) :
    ∃ text parts, value = some (.str text) ∧ host.parseUrl text = some parts ∧
      normalizeLoopbackHost host (some parts.hostname) = some target.hostname ∧
      target.port = urlPort parts ∧
      target.pathAndSearch =
        (if parts.pathname.isEmpty then "/" else parts.pathname) ++ parts.search := by
  unfold parseLoopbackUrlTarget at h
  simp only [Option.bind_eq_bind, Option.bind_eq_some_iff] at h
  obtain ⟨text, htext, h⟩ := h
  by_cases hpresent : (!isPresent text) = true
  · rw [if_pos hpresent] at h
    cases h
  rw [if_neg hpresent] at h
  simp only [Option.pure_def, Option.bind_eq_some_iff] at h
  obtain ⟨parts, hparts, name, hname, h⟩ := h
  by_cases hrange : urlPort parts < 1 ∨ urlPort parts > 65535
  · rw [if_pos hrange] at h
    cases h
  rw [if_neg hrange] at h
  obtain rfl := Option.some.inj h
  refine ⟨text, parts, ?_, hparts, hname, rfl, rfl⟩
  unfold asString at htext
  split at htext
  · rw [Option.some.inj htext]
  · cases htext

include web in
lemma findOverride_eq {results : List ActionRunResult} {hostname : String}
    (hname : hostname ∈ loopbackSpellings) (port : ℤ) :
    findOverride host (overridesOf host results) hostname port =
      latestStart host results port := by
  have hholds := holdsLatest_overridesOf web results
  rw [← hholds.latest]
  refine List.find?_congr fun override hmem => ?_
  rw [loopbackHostsAreEquivalent_loopback web (hholds.hosts override hmem).1 hname, Bool.and_true]

include web in
/-- The override of an action is that of the newest start of its port. -/
lemma findMatchingLoopbackTargetOverride_eq (results : List ActionRunResult)
    (action : PlannedAction) :
    findMatchingLoopbackTargetOverride host action (overridesOf host results) =
      (loopbackPort host action).bind (latestStart host results) := by
  have hurl : ((parseLoopbackUrlTarget host (action.params.get "url")).bind fun target =>
      findOverride host (overridesOf host results) target.hostname target.port) =
      ((parseLoopbackUrlTarget host (action.params.get "url")).map (·.port)).bind
        (latestStart host results) := by
    cases htarget : parseLoopbackUrlTarget host (action.params.get "url") with
    | none => rfl
    | some target =>
        obtain ⟨text, parts, -, -, hname, -⟩ := parseLoopbackUrlTarget_parts htarget
        exact findOverride_eq web (normalizeLoopbackHost_mem hname) target.port
  unfold findMatchingLoopbackTargetOverride loopbackPort
  cases action.type with
  | probePort =>
      simp only [Option.bind_eq_bind]
      cases hname : normalizeLoopbackHost host (asString (action.params.get "host")) with
      | none => rfl
      | some name =>
          cases asInteger (action.params.get "port") with
          | none => rfl
          | some port => exact findOverride_eq web (normalizeLoopbackHost_mem hname) port
  | probeHttp => exact hurl
  | verifyBrowser => exact hurl
  | openBrowser => exact hurl
  | _ => rfl

@[simp] lemma get_setText (params : JsonObject) (key text k : String) :
    (setText params key text).get k = if k = key then some (.str text) else params.get k :=
  JsonObject.get_set params key (.str text) trivial k

@[simp] lemma get_setInteger (params : JsonObject) (key : String) (n : ℤ) (k : String) :
    (setInteger params key n).get k =
      if k = key then some (.num (NumberText.ofInt n)) else params.get k :=
  JsonObject.get_set params key (.num (NumberText.ofInt n)) trivial k

@[simp] lemma get_unset (params : JsonObject) (key k : String) :
    (unset params key).get k = if k = key then none else params.get k := by
  unfold unset JsonObject.get
  dsimp only
  induction params.members with
  | nil => simp
  | cons m members ih =>
      obtain ⟨l, x⟩ := m
      by_cases hm : l = key
      · rw [List.filter_cons_of_neg (by simpa using hm), ih]
        by_cases hk : k = key
        · simp [hk]
        · have hkm : (k == l) = false := by simpa [hm] using hk
          simp [hk, List.lookup_cons, hkm]
      · rw [List.filter_cons_of_pos (by simpa using hm)]
        by_cases hk : k = l
        · have hne : ¬ k = key := hk ▸ hm
          simp [hk, hm]
        · have hkm : (k == l) = false := by simpa using hk
          simp only [List.lookup_cons, hkm, ih]

def IsUrlAction (action : PlannedAction) : Prop :=
  action.type = .probeHttp ∨ action.type = .verifyBrowser ∨ action.type = .openBrowser

/-- The URL of a rewritten action. -/
lemma overrideParams_url {action : PlannedAction} {target : ParsedLoopbackUrlTarget}
    (htype : IsUrlAction action)
    (htarget : parseLoopbackUrlTarget host (action.params.get "url") = some target)
    (override : LoopbackTargetOverride) :
    (overrideParams host action override).get "url" =
      some (.str (buildLoopbackUrl override.actualHost override.actualPort
        target.pathAndSearch)) := by
  rcases htype with htype | htype | htype
  · simp [overrideParams, htype, htarget, setTextIfAny]
  · simp [overrideParams, htype, htarget, setTextIfAny]
  · cases hlease : override.previewProcessLeaseId <;> cases hroot : override.workspaceRoot <;>
      by_cases hmissing : isMissingPreviewProcessLeaseId host
        (action.params.get "previewProcessLeaseId") = true <;>
      simp [overrideParams, htype, htarget, hlease, hroot, hmissing, setTextIfAny]

/-! ## The request -/

/-- Two URLs that differ in their host and port only. -/
structure SameRequest (url rewritten : UrlRecord) : Prop where
  protocol : rewritten.protocol = url.protocol
  username : rewritten.username = url.username
  password : rewritten.password = url.password
  pathname : rewritten.pathname = url.pathname
  search : rewritten.search = url.search
  hash : rewritten.hash = url.hash

/-- The action points at the actual target, and asks there for what it asked before. -/
inductive Directed (override : LoopbackTargetOverride) (action rewritten : PlannedAction) : Prop
  | port (htype : action.type = .probePort)
      (hhost : rewritten.params.get "host" = some (.str override.actualHost))
      (hport : rewritten.params.get "port" = some (.num (NumberText.ofInt override.actualPort)))
  | url (htype : IsUrlAction action) (text newText : String) (url newUrl : UrlRecord)
      (htext : action.params.get "url" = some (.str text)) (hurl : web.parse text = some url)
      (hnewText : rewritten.params.get "url" = some (.str newText))
      (hnewUrl : web.parse newText = some newUrl)
      (hhost : normalizeLoopbackHost host (some newUrl.hostname) = some override.actualHost)
      (hport : urlPort newUrl.toUrlParts = override.actualPort)
      (hsame : SameRequest url newUrl)

/-- The retargeting of an action after some results: each original port is overridden once, the
newest start of the action's port decides, and any other action stays as it is. -/
structure Retargets (results : List ActionRunResult) (action : PlannedAction) : Prop where
  once : ((overridesOf host results).map (·.originalPort)).Nodup
  directed : ∀ override, (loopbackPort host action).bind (latestStart host results) =
    some override → Directed web override action
      (applyLiveRunTargetOverrides host action (overridesOf host results))
  untouched : (loopbackPort host action).bind (latestStart host results) = none →
    applyLiveRunTargetOverrides host action (overridesOf host results) = action

/-- A request that the rewritten URL can carry. -/
structure Plain (url : UrlRecord) (override : LoopbackTargetOverride) : Prop where
  protocol : url.protocol = "http:"
  username : url.username = ""
  password : url.password = ""
  hash : url.hash = ""
  port : 0 ≤ override.actualPort ∧ override.actualPort ≤ 65535

/-- A URL that is to be rewritten is plain. -/
def KeepsRequest (results : List ActionRunResult) (action : PlannedAction) : Prop :=
  ∀ override text url, IsUrlAction action →
    (loopbackPort host action).bind (latestStart host results) = some override →
    action.params.get "url" = some (.str text) → web.parse text = some url →
    Plain url override

lemma isPresent_of_slash {text : String} (h : text.toList.head? = some '/') :
    isPresent text = true := by
  obtain ⟨rest, hrest⟩ : ∃ rest, text.toList = '/' :: rest := by
    cases hchars : text.toList with
    | nil =>
        rw [hchars] at h
        cases h
    | cons c rest =>
        rw [hchars] at h
        exact ⟨rest, by rw [Option.some.inj h]⟩
  have hslash : isWhitespace '/' = false := by decide
  have htrim : trimChars text.toList ≠ [] := by
    rw [hrest, trimChars, List.dropWhile_cons_of_neg (by simp [hslash])]
    intro hnil
    rw [List.reverse_eq_nil_iff, List.dropWhile_eq_nil_iff] at hnil
    have hall := hnil '/' (by simp)
    rw [hslash] at hall
    cases hall
  refine decide_eq_true fun hempty => htrim ?_
  have hchars := congrArg String.toList hempty
  rwa [trim, String.toList_ofList] at hchars

lemma buildLoopbackUrl_http (hostname : String) (port : ℤ) (pathAndSearch : String) :
    ∃ rest, buildLoopbackUrl hostname port pathAndSearch = "http://" ++ rest := by
  refine ⟨(if hostname = "::1" then "[::1]" else hostname) ++ ":" ++ toString port ++
    (if isPresent pathAndSearch then pathAndSearch else "/"), ?_⟩
  simp only [buildLoopbackUrl, String.append_assoc]

lemma buildLoopbackUrl_slash (hostname : String) (port : ℤ) {pathAndSearch : String}
    (h : pathAndSearch.toList.head? = some '/') :
    buildLoopbackUrl hostname port pathAndSearch =
      "http://" ++ printableHost hostname ++ ":" ++ toString port ++ pathAndSearch := by
  simp [buildLoopbackUrl, printableHost, isPresent_of_slash h]

lemma toList_toString_natCast (n : ℕ) : (toString (n : ℤ)).toList = Nat.toDigits 10 n := by
  change (toString n).toList = _
  rw [Nat.toString_eq_ofList_toDigits, String.toList_ofList]

lemma isPresent_toString_natCast (n : ℕ) : isPresent (toString (n : ℤ)) = true := by
  have htrim : trim (toString (n : ℤ)) = toString (n : ℤ) := by
    refine trim_of_no_whitespace fun c hc => isWhitespace_of_isHexDigit ?_
    rw [toList_toString_natCast] at hc
    simp [isHexDigit, Nat.isDigit_of_mem_toDigits (by decide) (by decide) hc]
  refine decide_eq_true fun hempty => ?_
  rw [htrim] at hempty
  have hchars := congrArg String.toList hempty
  rw [toList_toString_natCast] at hchars
  exact Nat.toDigits_ne_nil hchars

lemma urlPort_assembled {url assembled : UrlRecord} {hostname : String} {port : ℤ}
    (h : Assembled url hostname port assembled) (hlow : 0 ≤ port) :
    urlPort assembled.toUrlParts = port := by
  have hport := h.port
  unfold urlPort
  by_cases hdefault : port = 80
  · rw [if_pos hdefault] at hport
    rw [hport, h.protocol, if_neg (by decide), if_neg (by decide), hdefault]
  · rw [if_neg hdefault] at hport
    obtain ⟨n, rfl⟩ := Int.eq_ofNat_of_zero_le hlow
    rw [hport, if_pos (isPresent_toString_natCast n), toList_toString_natCast,
      digitsValue_toDigits]

include web in
lemma normalizeLoopbackHost_printable {name : String} (h : name ∈ loopbackSpellings) :
    normalizeLoopbackHost host (some (printableHost name)) = some name := by
  simp only [loopbackSpellings, List.mem_cons, List.not_mem_nil, or_false] at h
  have hname : name = "localhost" ∨ name = "127.0.0.1" ∨ name = "::1" := by tauto
  have hascii : (trim (printableHost name)).toList.all (fun c => c.toNat < 128) = true ∧
      stripBrackets (asciiLower (trim (printableHost name))) = name := by
    rcases h with rfl | rfl | rfl <;> exact ⟨by decide, by decide⟩
  simp only [normalizeLoopbackHost, web.toLowerCase_ascii _ hascii.1, hascii.2]
  rw [if_pos hname]

/-! ## Rewriting URLs -/

section Urls

variable {results : List ActionRunResult} {action : PlannedAction}
  {override : LoopbackTargetOverride}

include web in
/-- A matching start overrides the parameters. -/
lemma applyLiveRunTargetOverrides_some
    (h : (loopbackPort host action).bind (latestStart host results) = some override) :
    applyLiveRunTargetOverrides host action (overridesOf host results) =
      { action with params := overrideParams host action override } := by
  rw [applyLiveRunTargetOverrides, findMatchingLoopbackTargetOverride_eq web, h]

lemma latestStart_mem {port : ℤ} (h : latestStart host results port = some override) :
    override.actualHost ∈ loopbackSpellings := by
  have hmem := List.mem_of_getLast? h
  obtain ⟨result, -, hresult⟩ := List.mem_filterMap.mp (List.mem_of_mem_filter hmem)
  exact (overrideOfResult_hosts hresult).2

/-- The URL of an action with a loopback port. -/
lemma loopbackPort_url (htype : IsUrlAction action) {port : ℤ}
    (h : loopbackPort host action = some port) :
    ∃ target, parseLoopbackUrlTarget host (action.params.get "url") = some target ∧
      target.port = port := by
  have hurl : (parseLoopbackUrlTarget host (action.params.get "url")).map (·.port) =
      some port := by
    rcases htype with htype | htype | htype <;> simpa only [loopbackPort, htype] using h
  exact Option.map_eq_some_iff.mp hurl

/-- The new URL of a rewritten action. -/
lemma rewritten_url (htype : IsUrlAction action)
    (h : (loopbackPort host action).bind (latestStart host results) = some override) :
    ∃ text url, action.params.get "url" = some (.str text) ∧ web.parse text = some url ∧
      override.actualHost ∈ loopbackSpellings ∧
      (overrideParams host action override).get "url" =
        some (.str (buildLoopbackUrl override.actualHost override.actualPort
          ((if url.pathname.isEmpty then "/" else url.pathname) ++ url.search))) := by
  obtain ⟨port, hport, hlatest⟩ := Option.bind_eq_some_iff.mp h
  obtain ⟨target, htarget, -⟩ := loopbackPort_url htype hport
  obtain ⟨text, parts, htext, hparts, -, -, hpath⟩ := parseLoopbackUrlTarget_parts htarget
  rw [web.parseUrl_eq] at hparts
  obtain ⟨url, hurl, rfl⟩ := Option.map_eq_some_iff.mp hparts
  refine ⟨text, url, htext, hurl, latestStart_mem hlatest, ?_⟩
  rw [overrideParams_url htype htarget, hpath]

/-- The path and the query of a plain URL. -/
lemma pathAndSearch_http {text : String} {url : UrlRecord} (hurl : web.parse text = some url)
    (hprotocol : url.protocol = "http:") :
    (if url.pathname.isEmpty then "/" else url.pathname) ++ url.search =
        url.pathname ++ url.search ∧
      (url.pathname ++ url.search).toList.head? = some '/' := by
  have hslash := web.pathname_http text url hurl hprotocol
  have hne : url.pathname.isEmpty = false := by
    by_contra hempty
    rw [Bool.not_eq_false, String.isEmpty_iff] at hempty
    rw [hempty] at hslash
    cases hslash
  constructor
  · rw [hne]
    rfl
  · rw [String.toList_append, List.head?_append, hslash]
    rfl

/-- A plain request is carried over. -/
lemma directed_of_plain (htype : IsUrlAction action)
    (h : (loopbackPort host action).bind (latestStart host results) = some override)
    (hkeeps : KeepsRequest web results action) :
    Directed web override action { action with params := overrideParams host action override } := by
  obtain ⟨text, url, htext, hurl, hhost, hnew⟩ := rewritten_url web htype h
  have hplain := hkeeps override text url htype h htext hurl
  obtain ⟨hpath, hslash⟩ := pathAndSearch_http web hurl hplain.protocol
  obtain ⟨assembled, hassembled, hparts⟩ := web.parse_assembled text url hurl hplain.protocol
    override.actualHost hhost override.actualPort hplain.port.1 hplain.port.2
  rw [hpath, buildLoopbackUrl_slash _ _ hslash] at hnew
  refine .url htype text _ url assembled htext hurl hnew hassembled ?_
    (urlPort_assembled hparts hplain.port.1) ?_
  · rw [hparts.hostname]
    exact normalizeLoopbackHost_printable web hhost
  · exact ⟨hparts.protocol.trans hplain.protocol.symm, hparts.username.trans hplain.username.symm,
      hparts.password.trans hplain.password.symm, hparts.pathname, hparts.search,
      hparts.hash.trans hplain.hash.symm⟩

/-- A request that is carried over was plain. -/
lemma plain_of_directed (htype : IsUrlAction action)
    (h : (loopbackPort host action).bind (latestStart host results) = some override)
    (hdirected : Directed web override action
      { action with params := overrideParams host action override }) {text : String}
    {url : UrlRecord} (htext : action.params.get "url" = some (.str text))
    (hurl : web.parse text = some url) : Plain url override := by
  obtain ⟨text', url', htext', hurl', hhost, hnew⟩ := rewritten_url web htype h
  obtain rfl : text' = text := by simpa using htext'.symm.trans htext
  obtain rfl : url' = url := Option.some.inj (hurl'.symm.trans hurl)
  cases hdirected with
  | port hprobe =>
      rcases htype with htype | htype | htype <;> rw [htype] at hprobe <;> cases hprobe
  | url _ text'' newText url'' newUrl htext'' hurl'' hnewText hnewUrl _ _ hsame =>
      obtain rfl : text'' = text' := by simpa using htext''.symm.trans htext
      obtain rfl : url'' = url' := Option.some.inj (hurl''.symm.trans hurl)
      rw [hnew] at hnewText
      obtain rfl := Json.str.inj (Option.some.inj hnewText)
      obtain ⟨rest, hrest⟩ := buildLoopbackUrl_http override.actualHost override.actualPort
        ((if url''.pathname.isEmpty then "/" else url''.pathname) ++ url''.search)
      have hprotocol : url''.protocol = "http:" := by
        rw [← hsame.protocol]
        exact web.protocol_http rest newUrl (hrest ▸ hnewUrl)
      obtain ⟨hpath, hslash⟩ := pathAndSearch_http web hurl hprotocol
      rw [hpath, buildLoopbackUrl_slash _ _ hslash] at hnewUrl
      by_cases hrange : override.actualPort < 0 ∨ 65535 < override.actualPort
      · rw [web.parse_out_of_range _ hhost _ _ hrange hslash] at hnewUrl
        cases hnewUrl
      · obtain ⟨assembled, hassembled, hparts⟩ := web.parse_assembled text'' url'' hurl hprotocol
          override.actualHost hhost override.actualPort (by omega) (by omega)
        obtain rfl : newUrl = assembled := Option.some.inj (hnewUrl.symm.trans hassembled)
        exact ⟨hprotocol, hsame.username.symm.trans hparts.username,
          hsame.password.symm.trans hparts.password, hsame.hash.symm.trans hparts.hash,
          by omega, by omega⟩

end Urls

/-! ### A fragment that is lost -/

def isPathChar (c : Char) : Bool :=
  c.isAlphanum || c == '/'

/-- Nothing, or a fragment of letters and digits. -/
def isPlainFragment : List Char → Bool
  | [] => true
  | c :: cs => c == '#' && cs.all Char.isAlphanum

/-- The port, the path and the fragment behind the authority's colon. -/
def parsePlainTail (name : String) (cs : List Char) : Option UrlRecord :=
  let digits := cs.takeWhile Char.isDigit
  let tail := cs.dropWhile Char.isDigit
  let path := tail.takeWhile isPathChar
  let fragment := tail.dropWhile isPathChar
  if digits ≠ [] ∧ digitsValue digits ≤ 65535 ∧ path.head? = some '/' ∧
      isPlainFragment fragment = true then
    some {
      protocol := "http:"
      username := ""
      password := ""
      hostname := printableHost name
      port := if digitsValue digits = 80 then "" else toString (digitsValue digits)
      pathname := String.ofList path
      search := ""
      hash := if fragment.length ≤ 1 then "" else String.ofList fragment
      href := "http://" ++ printableHost name ++ ":" ++ String.ofList cs }
  else
    none

def parsePlainChars (cs : List Char) : Option UrlRecord :=
  (dropText "http://" cs).bind fun authority =>
    (loopbackSpellings.findSome? fun name =>
      (dropText (printableHost name ++ ":") authority).map fun rest => (name, rest)).bind
        fun found => parsePlainTail found.1 found.2

/-- A parser of the loopback URLs that have a port and no query. -/
def parsePlainUrl (text : String) : Option UrlRecord :=
  parsePlainChars text.toList

lemma dropText_append (part : String) (rest : List Char) :
    dropText part (part.toList ++ rest) = some rest := by
  simp [dropText]

lemma parsePlainChars_authority {name : String} (h : name ∈ loopbackSpellings) (cs : List Char) :
    parsePlainChars ("http://".toList ++ ((printableHost name ++ ":").toList ++ cs)) =
      parsePlainTail name cs := by
  rw [parsePlainChars, dropText_append, Option.bind_some]
  have hfound : (loopbackSpellings.findSome? fun other =>
      (dropText (printableHost other ++ ":") ((printableHost name ++ ":").toList ++ cs)).map
        fun rest => (other, rest)) = some (name, cs) := by
    simp only [loopbackSpellings, List.mem_cons, List.not_mem_nil, or_false] at h
    rcases h with rfl | rfl | rfl <;> rfl
  rw [hfound]
  rfl

lemma parsePlainUrl_authority {name : String} (h : name ∈ loopbackSpellings) (port rest : String) :
    parsePlainUrl ("http://" ++ printableHost name ++ ":" ++ port ++ rest) =
      parsePlainTail name (port.toList ++ rest.toList) := by
  rw [← parsePlainChars_authority h, parsePlainUrl]
  simp only [String.toList_append, List.append_assoc]

/-- What the parser has checked. -/
lemma parsePlainTail_some {name : String} {cs : List Char} {url : UrlRecord}
    (h : parsePlainTail name cs = some url) :
    url.protocol = "http:" ∧ url.pathname.toList.head? = some '/' ∧
      (∀ c ∈ url.pathname.toList, isPathChar c = true) ∧ url.search = "" := by
  unfold parsePlainTail at h
  dsimp only at h
  by_cases hplain : cs.takeWhile Char.isDigit ≠ [] ∧
      digitsValue (cs.takeWhile Char.isDigit) ≤ 65535 ∧
      ((cs.dropWhile Char.isDigit).takeWhile isPathChar).head? = some '/' ∧
      isPlainFragment ((cs.dropWhile Char.isDigit).dropWhile isPathChar) = true
  · rw [if_pos hplain] at h
    obtain rfl := Option.some.inj h
    refine ⟨rfl, ?_, ?_, rfl⟩
    · rw [String.toList_ofList]
      exact hplain.2.2.1
    · rw [String.toList_ofList]
      exact fun c hc => List.mem_takeWhile_imp hc
  · rw [if_neg hplain] at h
    cases h

lemma parsePlainUrl_some {text : String} {url : UrlRecord} (h : parsePlainUrl text = some url) :
    url.protocol = "http:" ∧ url.pathname.toList.head? = some '/' ∧
      (∀ c ∈ url.pathname.toList, isPathChar c = true) ∧ url.search = "" := by
  obtain ⟨authority, -, h⟩ := Option.bind_eq_some_iff.mp h
  obtain ⟨found, -, h⟩ := Option.bind_eq_some_iff.mp h
  exact parsePlainTail_some h

/-- Digits end where a path begins. -/
lemma span_digits {digits : List Char} (hdigits : ∀ c ∈ digits, c.isDigit = true)
    {rest : List Char} (hrest : rest.head? = some '/') :
    (digits ++ rest).takeWhile Char.isDigit = digits ∧
      (digits ++ rest).dropWhile Char.isDigit = rest := by
  have hstop : ∀ c ∈ rest.head?, Char.isDigit c = false := by
    intro c hc
    rw [hrest] at hc
    obtain rfl := Option.some.inj hc
    decide
  have hnone : rest.takeWhile Char.isDigit = [] := by
    cases rest with
    | nil => rfl
    | cons c rest => exact List.takeWhile_cons_of_neg (by simp [hstop c rfl])
  constructor
  · rw [List.takeWhile_append_of_pos hdigits, hnone, List.append_nil]
  · rw [List.dropWhile_append_of_pos hdigits, dropWhile_of_head hstop]

lemma toDigits_isDigit (n : ℕ) : ∀ c ∈ Nat.toDigits 10 n, c.isDigit = true :=
  fun _ hc => Nat.isDigit_of_mem_toDigits (by decide) (by decide) hc

lemma parsePlainTail_out_of_range {name : String} {port : ℤ} (hrange : port < 0 ∨ 65535 < port)
    {rest : List Char} (hrest : rest.head? = some '/') :
    parsePlainTail name ((toString port).toList ++ rest) = none := by
  cases port with
  | ofNat n =>
      have hdigits := (span_digits (toDigits_isDigit n) hrest).1
      have hlarge : ¬ n ≤ 65535 := by
        intro hle
        rcases hrange with hneg | hhigh
        · exact absurd hneg (by simp)
        · have hhigh' : 65535 < (n : ℤ) := hhigh
          omega
      change parsePlainTail name ((toString (n : ℤ)).toList ++ rest) = none
      rw [toList_toString_natCast, parsePlainTail]
      simp [hdigits, digitsValue_toDigits, hlarge]
  | negSucc n =>
      have hsign : (toString (Int.negSucc n)).toList = '-' :: (toString (n + 1)).toList := by
        change ("-" ++ toString (n + 1)).toList = _
        rw [String.toList_append]
        rfl
      have hminus : Char.isDigit '-' = false := by decide
      rw [hsign, parsePlainTail]
      simp [hminus]

lemma parsePlainTail_assembled (name : String) {path : String} {n : ℕ} (hn : n ≤ 65535)
    (hhead : path.toList.head? = some '/')
    (hpath : ∀ c ∈ path.toList, isPathChar c = true) :
    ∃ url, parsePlainTail name ((toString (n : ℤ)).toList ++ path.toList) = some url ∧
      url.protocol = "http:" ∧ url.username = "" ∧ url.password = "" ∧
      url.hostname = printableHost name ∧
      url.port = (if (n : ℤ) = 80 then "" else toString (n : ℤ)) ∧ url.pathname = path ∧
      url.search = "" ∧ url.hash = "" := by
  have hdigits := span_digits (toDigits_isDigit n) hhead
  have htake : path.toList.takeWhile isPathChar = path.toList := by
    rw [List.takeWhile_eq_self_iff]
    exact hpath
  have hdrop : path.toList.dropWhile isPathChar = [] := by
    rw [List.dropWhile_eq_nil_iff]
    exact hpath
  have hport : (if n = 80 then "" else toString n) =
      if (n : ℤ) = 80 then "" else toString (n : ℤ) := by
    have hcast : (n : ℤ) = 80 ↔ n = 80 := by omega
    simp only [hcast]
    rfl
  rw [toList_toString_natCast, parsePlainTail]
  simp only [hdigits.1, hdigits.2, htake, hdrop, digitsValue_toDigits]
  rw [if_pos ⟨by simp, hn, hhead, rfl⟩]
  exact ⟨_, rfl, rfl, rfl, rfl, rfl, hport, String.ofList_toList, rfl, rfl⟩

/-- A host with this parser. -/
def webHost : Host :=
  { plainHost with parseUrl := fun text => (parsePlainUrl text).map UrlRecord.toUrlParts }

def plainWeb : WebPlatform webHost where
  parse := parsePlainUrl
  parseUrl_eq := fun _ => rfl
  toLowerCase_ascii := fun _ _ => rfl
  protocol_http := fun _ _ h => (parsePlainUrl_some h).1
  pathname_http := fun _ _ h _ => (parsePlainUrl_some h).2.1
  parse_out_of_range := by
    intro hostname hhost port rest hrange hrest
    rw [parsePlainUrl_authority hhost]
    exact parsePlainTail_out_of_range hrange hrest
  parse_assembled := by
    intro text url hurl hprotocol hostname hhost port hlow hhigh
    obtain ⟨-, hhead, hpath, hsearch⟩ := parsePlainUrl_some hurl
    obtain ⟨n, rfl⟩ := Int.eq_ofNat_of_zero_le hlow
    obtain ⟨assembled, hassembled, h1, h2, h3, h4, h5, h6, h7, h8⟩ :=
      parsePlainTail_assembled hostname (show n ≤ 65535 by omega) hhead hpath
    refine ⟨assembled, ?_, h1, h2, h3, h4, h5, h6, h7.trans hsearch.symm, h8⟩
    rw [hsearch, String.append_empty, parsePlainUrl_authority hhost]
    exact hassembled

/-- A start on port 3000 that was moved to port 3001. -/
def movedStart : ActionRunResult where
  action := startServer "action_1"
  mode := .escalationPath
  approved := true
  output := some "Process started."
  executionStatus := some .success
  executionFailureCode := none
  executionMetadata := some {
    members := [("processRequestedHost", .str "localhost"),
      ("processRequestedPort", .num (.ofNat 3001)),
      ("processOriginalRequestedHost", .str "localhost"),
      ("processOriginalRequestedPort", .num (.ofNat 3000))]
    distinct := by simp [Json.DistinctKeys, Json.DistinctKeysMembers] }
  blockedBy := []
  violations := []
  votes := []
  decision := none

def openSettings : PlannedAction where
  id := "action_2"
  type := .openBrowser
  description := "Open the settings."
  params := ⟨[("url", .str "http://localhost:3000/app#settings")],
    by simp [Json.DistinctKeys, Json.DistinctKeysMembers]⟩
  estimatedCostUsd := 0

/-- The retargeting follows the newest starts, and keeps the request exactly if each URL that it
rewrites is plain. -/
theorem retargets_iff (results : List ActionRunResult) (action : PlannedAction) :
    Retargets web results action ↔ KeepsRequest web results action := by
  constructor
  · intro h override text url htype hoverride htext hurl
    have hdirected := h.directed override hoverride
    rw [applyLiveRunTargetOverrides_some web hoverride] at hdirected
    exact plain_of_directed web htype hoverride hdirected htext hurl
  · intro hkeeps
    refine ⟨(holdsLatest_overridesOf web results).ports, ?_, ?_⟩
    · intro override hoverride
      rw [applyLiveRunTargetOverrides_some web hoverride]
      by_cases htype : IsUrlAction action
      · exact directed_of_plain web htype hoverride hkeeps
      · have hprobe : action.type = .probePort := by
          obtain ⟨port, hport, -⟩ := Option.bind_eq_some_iff.mp hoverride
          unfold loopbackPort at hport
          unfold IsUrlAction at htype
          cases hkind : action.type <;> simp [hkind] at hport htype ⊢
        refine .port hprobe ?_ ?_
        · simp [overrideParams, hprobe]
        · simp [overrideParams, hprobe]
    · intro hnone
      rw [applyLiveRunTargetOverrides, findMatchingLoopbackTargetOverride_eq web, hnone]

/-- The page is opened on the actual port, without its fragment. -/
theorem fragment_is_lost : ¬ Retargets plainWeb [movedStart] openSettings := by
  intro h
  have hsome : ((loopbackPort webHost openSettings).bind
      (latestStart webHost [movedStart])).isSome = true := by decide +kernel
  obtain ⟨override, hoverride⟩ := Option.isSome_iff_exists.mp hsome
  have hhash : (parsePlainUrl "http://localhost:3000/app#settings").map UrlRecord.hash =
      some "#settings" := by decide
  obtain ⟨url, hurl, hsettings⟩ := Option.map_eq_some_iff.mp hhash
  have hdirected := h.directed override hoverride
  rw [applyLiveRunTargetOverrides_some plainWeb hoverride] at hdirected
  have hplain := plain_of_directed plainWeb (Or.inr (Or.inr rfl)) hoverride hdirected rfl hurl
  have hempty := hplain.hash
  rw [hsettings] at hempty
  exact absurd hempty (by decide)

end AgentBigBrain.Orchestration
