import AgentBigBrain.Orchestration.TaskRunnerNetworkPreflight
import Mathlib.Logic.Function.Basic

/-!
# What an approval grant authorises

A passing preflight has matched the digest of the diff text with the grant. When the
text is the canonical JSON of the action's own request, the approved request is the own
one, up to key order and to `__proto__` members, which canonical JSON drops. A diff text
from the parameters breaks the link, and an expiry that is no date never passes. The
number of uses is bounded over every sequence of preflights.
-/
namespace AgentBigBrain.Orchestration

open AgentBigBrain.Js AgentBigBrain.Core

/-! ## Requests -/

/-- Endpoint, method and payload of a network write. -/
structure NetworkRequest where
  endpoint : String
  method : String
  payload : Json
  distinct : payload.DistinctKeys

lemma sortKeys_requestJson (endpoint method : String) (payload : Json) :
    (requestJson endpoint method payload).sortKeys = .obj
      [("endpoint", .str endpoint), ("method", .str method), ("payload", payload.sortKeys)] := by
  rw [requestJson, Json.sortKeys, Json.sortKeysMembers_eq]
  congr 1
  refine Json.memberOrder.sort_of_sorted ?_
  have hem : textLe "endpoint" "method" = true := by decide
  have hep : textLe "endpoint" "payload" = true := by decide
  have hmp : textLe "method" "payload" = true := by decide
  simp [Comparator.Sorted, Json.memberOrder, codeUnitOrder, hem, hep, hmp]

namespace NetworkRequest

def json (r : NetworkRequest) : Json :=
  requestJson r.endpoint r.method r.payload

lemma json_distinct (r : NetworkRequest) : r.json.DistinctKeys := by
  simp [json, requestJson, r.distinct, Json.DistinctKeys]

/-- Equal requests; the payloads may differ in key order. -/
def Same (r s : NetworkRequest) : Prop :=
  r.endpoint = s.endpoint ∧ r.method = s.method ∧ Json.SameValue r.payload s.payload

/-- The payloads carry the same `__proto__` members. -/
def SameProto (r s : NetworkRequest) : Prop :=
  Json.SameValue (protoParts r.payload) (protoParts s.payload)

lemma Same.refl (r : NetworkRequest) : r.Same r :=
  ⟨rfl, rfl, rfl⟩

lemma Same.symm {r s : NetworkRequest} (h : r.Same s) : s.Same r :=
  ⟨h.1.symm, h.2.1.symm, h.2.2.symm⟩

lemma Same.trans {r s t : NetworkRequest} (hrs : r.Same s) (hst : s.Same t) : r.Same t :=
  ⟨hrs.1.trans hst.1, hrs.2.1.trans hst.2.1, hrs.2.2.trans hst.2.2⟩

lemma Same.sameProto {r s : NetworkRequest} (h : r.Same s) : r.SameProto s :=
  (parts_of_sameValue r.payload s.payload r.distinct s.distinct h.2.2).2

lemma withoutProto_json (r : NetworkRequest) :
    withoutProto r.json = requestJson r.endpoint r.method (withoutProto r.payload) := by
  simp [json, requestJson, withoutProto, protoKey]

/-- One canonical text and one set of `__proto__` members belong to one request. -/
lemma same_of_canonicalJson_eq {locale : Core.Locale} {r s : NetworkRequest}
    (h : canonicalJson locale r.json = canonicalJson locale s.json) (hproto : r.SameProto s) :
    r.Same s := by
  have hsame := sameValue_of_canonicalJson_eq r.json_distinct s.json_distinct h
  rw [withoutProto_json, withoutProto_json] at hsame
  simp only [Json.SameValue, sortKeys_requestJson, Json.obj.injEq, List.cons.injEq,
    Prod.mk.injEq, Json.str.injEq, true_and, and_true] at hsame
  exact ⟨hsame.1, hsame.2.1,
    sameValue_of_parts r.payload s.payload r.distinct s.distinct hsame.2.2 hproto⟩

end NetworkRequest

/-- The request of the action itself, as the preflight reads it from the parameters. -/
def ownRequest (params : JsonObject) : Option NetworkRequest :=
  (networkWriteUrl params).map fun url => {
    endpoint := url
    method := networkWriteMethod params
    payload := networkWritePayload params
    distinct := by
      unfold networkWritePayload
      cases hpayload : params.get "payload" with
      | none => trivial
      | some payload =>
          have hmem := mem_of_lookup hpayload
          exact ((Json.distinctKeys_obj _).mp params.distinct).2 _ hmem }

lemma exists_ownRequest {params : JsonObject} {url : String}
    (hurl : networkWriteUrl params = some url) :
    ∃ own, ownRequest params = some own ∧ own.endpoint = url := by
  unfold ownRequest
  rw [hurl]
  exact ⟨_, rfl, rfl⟩

variable (sha : Sha256) (host : Host)

/-- There is no `approvalDiff` parameter, or it is a canonical text of the action's own
request. -/
def DiffIsOwn (params : JsonObject) (own : NetworkRequest) : Prop :=
  match normalizeOptionalString (params.get "approvalDiff") with
  | none => True
  | some diff => ∃ r : NetworkRequest, r.Same own ∧ diff = canonicalJson host.locale r.json

/-- The parameter is fine exactly when the text that is matched with a grant spells the own
request. -/
lemma diffIsOwn_iff {params : JsonObject} {own : NetworkRequest}
    (hown : ownRequest params = some own) :
    DiffIsOwn host params own ↔ ∃ r : NetworkRequest, r.Same own ∧
      networkApprovalDiff host params own.endpoint = canonicalJson host.locale r.json := by
  obtain ⟨url, -, rfl⟩ := Option.map_eq_some_iff.mp hown
  unfold DiffIsOwn networkApprovalDiff
  cases normalizeOptionalString (params.get "approvalDiff") with
  | none => exact ⟨fun _ => ⟨_, NetworkRequest.Same.refl _, rfl⟩, fun _ => trivial⟩
  | some diff => rfl

/-- The grant carries a date that has not passed. -/
def NotExpired (now : ClockReading host) (grant : ApprovalGrant) : Prop :=
  ∃ t, host.dateParse grant.expiresAt = some t ∧ now.ms ≤ t

/-- The preflight lets the action pass under a grant of the store. -/
def PassesUnder (input : NetworkWritePreflightInput host) (approvalId : String)
    (grant : ApprovalGrant) : Prop :=
  (evaluateTaskRunnerNetworkWritePreflight sha host input).approvalGrant =
      some (approvalId, registerApprovalGrantUse grant) ∧
    input.approvalGrantById approvalId = some grant

/-! ## A passing preflight -/

lemma evaluateApprovalGrant_ok {input : NetworkWritePreflightInput host} {url : String}
    {passed : String × ApprovalGrant}
    (h : evaluateApprovalGrant sha host input url = .ok passed) :
    ∃ grant, input.approvalGrantById passed.1 = some grant ∧
      passed.2 = registerApprovalGrantUse grant ∧
      grant.diffHash = sha.digest (networkApprovalDiff host input.action.params url) ∧
      isPast host input.now grant.expiresAt = false ∧ grant.uses < grant.maxUses := by
  simp only [evaluateApprovalGrant] at h
  split at h
  · cases h
  · split_ifs at h
    split at h
    · cases h
    · rename_i grant hgrant
      split at h
      · cases h
      · rename_i hvalid
        split at h
        · cases h
        · obtain rfl := Except.ok.inj h
          obtain ⟨-, hhash, hpast, huses⟩ := validateApprovalGrantUse_eq_none host hvalid
          rw [createApprovalRequest_diffHash, networkApprovalScope_diff] at hhash
          exact ⟨grant, hgrant, rfl, hhash, hpast, huses⟩

/-- Everything a passing preflight has checked about its grant. -/
theorem networkPreflight_passed {input : NetworkWritePreflightInput host} {approvalId : String}
    {next : ApprovalGrant}
    (h : (evaluateTaskRunnerNetworkWritePreflight sha host input).approvalGrant =
      some (approvalId, next)) :
    ∃ own grant, ownRequest input.action.params = some own ∧
      input.approvalGrantById approvalId = some grant ∧
      next = registerApprovalGrantUse grant ∧
      grant.diffHash = sha.digest (networkApprovalDiff host input.action.params own.endpoint) ∧
      isPast host input.now grant.expiresAt = false ∧ grant.uses < grant.maxUses := by
  simp only [evaluateTaskRunnerNetworkWritePreflight, preflightBlocked] at h
  split at h
  · cases h
  · rename_i url hurl
    split at h
    · cases h
    · split at h
      · cases h
      · split at h
        · cases h
        · rename_i passed hpassed
          obtain rfl := Option.some.inj h
          obtain ⟨grant, hgrant, hnext, hhash, hpast, huses⟩ :=
            evaluateApprovalGrant_ok sha host hpassed
          obtain ⟨own, hown, rfl⟩ := exists_ownRequest hurl
          exact ⟨own, grant, hown, hgrant, hnext, hhash, hpast, huses⟩

/-! ## Runs of preflights -/

/-- A sequence of preflights that share one grant map, with the ids under which they
passed. -/
def runPreflights (grants : ApprovalGrants) :
    List (NetworkWritePreflightInput host) → ApprovalGrants × List String
  | [] => (grants, [])
  | input :: inputs =>
      match (evaluateTaskRunnerNetworkWritePreflight sha host
        { input with approvalGrantById := grants }).approvalGrant with
      | none => runPreflights grants inputs
      | some (approvalId, grant) =>
          let rest := runPreflights (Function.update grants approvalId (some grant)) inputs
          (rest.1, approvalId :: rest.2)

/-- Passes and earlier uses never exceed what the grant allows. -/
theorem passes_add_uses_le (inputs : List (NetworkWritePreflightInput host))
    (approvalId : String) : ∀ (grants : ApprovalGrants) (grant : ApprovalGrant),
    grants approvalId = some grant →
      (runPreflights sha host grants inputs).2.count approvalId + grant.uses ≤
        max grant.uses grant.maxUses := by
  induction inputs with
  | nil => intro _ grant _; simp [runPreflights]
  | cons input inputs ih =>
      intro grants grant hgrant
      rw [runPreflights]
      split
      · exact ih grants grant hgrant
      · rename_i passedId next hpass
        obtain ⟨own, used, -, hused, hnext, -, -, huses⟩ :=
          networkPreflight_passed sha host hpass
        change grants passedId = some used at hused
        by_cases hid : passedId = approvalId
        · subst hid
          obtain rfl : grant = used := Option.some.inj (hgrant.symm.trans hused)
          have hrest := ih (Function.update grants passedId (some next)) next
            (Function.update_self ..)
          subst hnext
          simp only [registerApprovalGrantUse] at hrest huses ⊢
          rw [List.count_cons_self]
          omega
        · have hrest := ih (Function.update grants passedId (some next)) grant
            (by rw [Function.update_of_ne (Ne.symm hid)]; exact hgrant)
          rwa [List.count_cons_of_ne hid]

/-! ## A plan that brings its own diff text -/

def sampleIssued : NetworkRequest where
  endpoint := "https://api.example.com/notes"
  method := "POST"
  payload := .null
  distinct := trivial

def sampleOwn : NetworkRequest where
  endpoint := "https://api.example.com/deploy"
  method := "POST"
  payload := .null
  distinct := trivial

def sampleExpiry : String := "2026-01-01T00:05:00.000Z"

def approvalIdBasis (diff : String) : String :=
  "mission_1|[\"action_1\"]|" ++ diff ++ "|" ++ sampleExpiry

/-- The digests of the two canonical requests and of their approval scopes. -/
def sampleRequestDigests : List (String × String) :=
  [(sampleOwn.json.stringify,
      "3226171b4aeb15539e973ece51f107805caf12904a5fc03f31462c79f1850eda"),
    (sampleIssued.json.stringify,
      "dab0eb687954936030d222cd07529e9faee9340a18cfb8ee0b99dcd01b38c2a8"),
    (approvalIdBasis sampleOwn.json.stringify,
      "037bc74bbe469dbce124e1d7cac0430bad3e6ee744ab2b9b215e9247961e3ab0"),
    (approvalIdBasis sampleIssued.json.stringify,
      "5ddae8f2542fd13b24a0a9f143948cf2a1ac500330fb6e74a688fa3a4ea431a8")]

lemma validTable_sampleRequestDigests : ValidTable sampleRequestDigests :=
  (((validTable_nil.cons (by decide) (by decide)).cons (by decide) (by decide)).cons
    (by decide) (by decide)).cons (by decide) (by decide)

def sampleRequestSha : Sha256 :=
  Sha256.ofTable sampleRequestDigests validTable_sampleRequestDigests

def sampleApiHost : Host :=
  .ofTables [("2026-01-01T00:00:00.000Z", 1767225600000), (sampleExpiry, 1767225900000)]
    [("https://api.example.com/deploy",
      { protocol := "https:", hostname := "api.example.com", port := "", pathname := "/deploy"
        search := "", href := "https://api.example.com/deploy" })]

def sampleNetworkWrite (approvalDiff : String) : PlannedAction where
  id := "action_1"
  type := .networkWrite
  description := "Deploy."
  params := ⟨[("url", .str sampleOwn.endpoint), ("approvalId", .str "approval_1"),
    ("approvalDiff", .str approvalDiff)], by simp [Json.DistinctKeys, Json.DistinctKeysMembers]⟩
  estimatedCostUsd := 0

def sampleOwnerAccess : PrincipalAccessAuditMetadata where
  principalRole := some "owner"
  accessOperation := some "approval"
  accessClass := some "owner_private"
  accessAllowed := some true
  accessReason := none
  routeVisibility := none
  identityAuthority := none
  legacyIdentityState := none
  ownerMatchSource := none

/-- A grant for one use. -/
def sampleGrant (request : NetworkRequest) : ApprovalGrant where
  approvalId := "approval_1"
  missionId := "mission_1"
  actionIds := ["action_1"]
  diffHash := sampleRequestSha.digest (canonicalJson codeUnitOrder request.json)
  approvedAt := "2026-01-01T00:00:00.000Z"
  expiresAt := sampleExpiry
  approvedBy := "owner_1"
  idempotencyKeys := ["key_1"]
  maxUses := 1
  uses := 0
  approverPrincipalAccess := some sampleOwnerAccess

def sampleNetworkInput (approvalDiff : String) (request : NetworkRequest) :
    NetworkWritePreflightInput sampleApiHost where
  action := sampleNetworkWrite approvalDiff
  approvalGrantById id := if id = "approval_1" then some (sampleGrant request) else none
  idempotencyKey := "key_1"
  mode := .escalationPath
  now := ⟨"2026-01-01T00:00:00.000Z", 1767225600000, by decide⟩
  defaultExpiresAt := sampleExpiry
  proposal := {
    id := "proposal_1"
    taskId := "task_1"
    requestedBy := "planner"
    rationale := "Task goal: Deploy. Execute action: Deploy."
    action := sampleNetworkWrite approvalDiff
    touchesImmutable := false }
  missionId := "mission_1"

/-! ## Authorisation -/

/-- Under an injective digest, a pass means that the approved request is the action's own one
and the grant is unexpired, exactly when the diff text is the own one, the expiry is a date
and the `__proto__` members agree. The uses of a grant bound the passes of every run. -/
theorem grant_authorises_iff (hinj : Function.Injective sha.digest) :
    (∀ (input : NetworkWritePreflightInput host) (approvalId : String) (grant : ApprovalGrant)
      (own issued : NetworkRequest), ownRequest input.action.params = some own →
      PassesUnder sha host input approvalId grant →
      grant.diffHash = sha.digest (canonicalJson host.locale issued.json) →
        (own.Same issued ∧ NotExpired host input.now grant ↔
          DiffIsOwn host input.action.params own ∧
            (host.dateParse grant.expiresAt).isSome = true ∧ own.SameProto issued)) ∧
    (∀ (grants : ApprovalGrants) (inputs : List (NetworkWritePreflightInput host))
      (approvalId : String) (grant : ApprovalGrant), grants approvalId = some grant →
        (runPreflights sha host grants inputs).2.count approvalId ≤ grant.maxUses) := by
  constructor
  · intro input approvalId grant own issued hown hpass hissued
    obtain ⟨own', grant', hown', hgrant', -, hhash, hpast, -⟩ :=
      networkPreflight_passed sha host hpass.1
    obtain rfl : own = own' := Option.some.inj (hown.symm.trans hown')
    obtain rfl : grant = grant' := Option.some.inj (hpass.2.symm.trans hgrant')
    have hdiff := hinj (hhash.symm.trans hissued)
    rw [diffIsOwn_iff host hown]
    constructor
    · rintro ⟨hsame, t, ht, -⟩
      exact ⟨⟨issued, hsame.symm, hdiff⟩, by simp [ht], hsame.sameProto⟩
    · rintro ⟨⟨r, hr, htext⟩, hdate, hproto⟩
      have hrissued : r.Same issued := NetworkRequest.same_of_canonicalJson_eq
        (htext.symm.trans hdiff) (hr.sameProto.trans hproto)
      refine ⟨hr.symm.trans hrissued, ?_⟩
      obtain ⟨t, ht⟩ := Option.isSome_iff_exists.mp hdate
      rw [isPast, ht] at hpast
      exact ⟨t, ht, by simpa using hpast⟩
  · intro grants inputs approvalId grant hgrant
    have hbound := passes_add_uses_le sha host inputs approvalId grants grant hgrant
    omega

/-- The blank diff text of this plan counts as absent. -/
theorem grant_authorises_own_request :
    (sampleOwn.Same sampleOwn ∧ NotExpired sampleApiHost (sampleNetworkInput "" sampleOwn).now
        (sampleGrant sampleOwn) ↔
      DiffIsOwn sampleApiHost (sampleNetworkInput "" sampleOwn).action.params sampleOwn ∧
        (sampleApiHost.dateParse (sampleGrant sampleOwn).expiresAt).isSome = true ∧
        sampleOwn.SameProto sampleOwn) ∧
      (runPreflights sampleRequestSha sampleApiHost
        (sampleNetworkInput "" sampleOwn).approvalGrantById
        [sampleNetworkInput "" sampleOwn, sampleNetworkInput "" sampleOwn]).2.count
          "approval_1" ≤ 1 :=
  have hauthorises := grant_authorises_iff sampleRequestSha sampleApiHost
    (tabledDigest_injective validTable_sampleRequestDigests)
  ⟨hauthorises.1 (sampleNetworkInput "" sampleOwn) "approval_1" (sampleGrant sampleOwn) sampleOwn
      sampleOwn rfl ⟨by decide, rfl⟩ rfl,
    hauthorises.2 _ _ _ (sampleGrant sampleOwn) rfl⟩

/-- A grant for one request lets another one pass when the plan repeats the approved text. -/
theorem approvalDiff_passes_other_request :
    ownRequest (sampleNetworkInput sampleIssued.json.stringify sampleIssued).action.params =
        some sampleOwn ∧
      PassesUnder sampleRequestSha sampleApiHost
        (sampleNetworkInput sampleIssued.json.stringify sampleIssued) "approval_1"
        (sampleGrant sampleIssued) ∧
      (sampleGrant sampleIssued).diffHash =
        sampleRequestSha.digest (canonicalJson sampleApiHost.locale sampleIssued.json) ∧
      ¬ sampleOwn.Same sampleIssued :=
  ⟨rfl, ⟨by decide, rfl⟩, rfl, fun h => absurd h.1 (by decide)⟩

end AgentBigBrain.Orchestration
