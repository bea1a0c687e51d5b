import AgentBigBrain.Core.Canonicalization
import AgentBigBrain.Core.Sha256
import AgentBigBrain.Js.Text

/-!
# The delivery authority of proactive pulses

Each gate adds its reasons to one list, and a pulse is delivered when the list stays empty. The
first gate that refuses gives the decision code.
-/
namespace AgentBigBrain.Interfaces

open AgentBigBrain.Js AgentBigBrain.Core

/-! ## Requests and decisions -/

inductive PulseDecisionCode where
  | allowed | disabled | optOut | noPrivateRoute | noStaleFacts | noUnresolvedCommitments
  | noContextualLinkage | relationshipRoleSuppressed | contextDriftSuppressed
  | contextualTopicCooldown | sessionDomainSuppressed | quietHours | rateLimit | dailyCap
  | reasonNotAllowed | publicPrivacyBlocked | activeMission | sourceRecallBlocked
  | runtimeActionNotSchedulerAuthorized | dependencyUnavailable | skippedActiveWork
  | blockedByPolicy | notEvaluated | dynamicSent | dynamicSuppressed
deriving DecidableEq, Repr

def PulseDecisionCode.text : PulseDecisionCode → String
  | .allowed => "ALLOWED"
  | .disabled => "DISABLED"
  | .optOut => "OPT_OUT"
  | .noPrivateRoute => "NO_PRIVATE_ROUTE"
  | .noStaleFacts => "NO_STALE_FACTS"
  | .noUnresolvedCommitments => "NO_UNRESOLVED_COMMITMENTS"
  | .noContextualLinkage => "NO_CONTEXTUAL_LINKAGE"
  | .relationshipRoleSuppressed => "RELATIONSHIP_ROLE_SUPPRESSED"
  | .contextDriftSuppressed => "CONTEXT_DRIFT_SUPPRESSED"
  | .contextualTopicCooldown => "CONTEXTUAL_TOPIC_COOLDOWN"
  | .sessionDomainSuppressed => "SESSION_DOMAIN_SUPPRESSED"
  | .quietHours => "QUIET_HOURS"
  | .rateLimit => "RATE_LIMIT"
  | .dailyCap => "DAILY_CAP"
  | .reasonNotAllowed => "REASON_NOT_ALLOWED"
  | .publicPrivacyBlocked => "PUBLIC_PRIVACY_BLOCKED"
  | .activeMission => "ACTIVE_MISSION"
  | .sourceRecallBlocked => "SOURCE_RECALL_BLOCKED"
  | .runtimeActionNotSchedulerAuthorized => "RUNTIME_ACTION_NOT_SCHEDULER_AUTHORIZED"
  | .dependencyUnavailable => "DEPENDENCY_UNAVAILABLE"
  | .skippedActiveWork => "SKIPPED_ACTIVE_WORK"
  | .blockedByPolicy => "BLOCKED_BY_POLICY"
  | .notEvaluated => "NOT_EVALUATED"
  | .dynamicSent => "DYNAMIC_SENT"
  | .dynamicSuppressed => "DYNAMIC_SUPPRESSED"

inductive PulseTargetVisibility where
  | isPrivate | isPublic | unknown
deriving DecidableEq, Repr

inductive PulsePrivacyRisk where
  | none | privateOnly | sensitive | blocked
deriving DecidableEq, Repr

inductive PulseSourceRecallStatus where
  | notUsed | available | disabled | blocked | unavailable
deriving DecidableEq, Repr

structure PulseBaseDecision where
  allowed : Bool
  decisionCode : PulseDecisionCode
  suppressedBy : List String
  nextEligibleAtIso : Option String := none

structure PulseCandidateRisk where
  privacyRisk : PulsePrivacyRisk
  activeMissionSafe : Bool

structure PulsePolicyContext where
  userHasActiveMission : Bool
  userHasQueuedMission : Bool
  routeIsPublicSafe : Bool
  sourceEvidencePublicSafe : Bool

structure PulseEvidence where
  sourceRecallRefs : List String
  sourceRecallStatus : PulseSourceRecallStatus
  sourceRecallUsable : Bool
  containsPrivateMemoryEvidence : Bool
  containsRelationshipEvidence : Bool
  containsIdentityEvidence : Bool

structure PulseGatewayRequest where
  requestId : String
  targetVisibility : PulseTargetVisibility
  nowIso : String
  baseDecision : Option PulseBaseDecision
  dynamicReasonAllowed : Option Bool
  candidateRisk : Option PulseCandidateRisk
  policyContext : PulsePolicyContext
  evidence : PulseEvidence

structure PulseGatewayDecision where
  decisionId : String
  requestId : String
  allowed : Bool
  decisionCode : PulseDecisionCode
  suppressedBy : List String
  nextEligibleAtIso : Option String
  userVisibleDeliveryAllowed : Bool

/-! ## The evaluation -/

/-- The reasons collected so far, with the code of the first of them. -/
structure PulseSuppression where
  decisionCode : PulseDecisionCode := .allowed
  suppressedBy : List String := []

/-- One check: where it refuses, its reason is added, and its code is kept if none came before. -/
def PulseSuppression.check (state : PulseSuppression) (refuses : Bool) (code : PulseDecisionCode)
    (reason : String) : PulseSuppression :=
  if refuses then
    { decisionCode := if state.suppressedBy.length = 0 then code else state.decisionCode
      suppressedBy := state.suppressedBy ++ [reason] }
  else state

namespace PulseGatewayRequest

variable (request : PulseGatewayRequest)

def startingSuppression : PulseSuppression :=
  match request.baseDecision with
  | some base =>
      if !base.allowed then ⟨base.decisionCode, base.suppressedBy⟩ else {}
  | none => {}

def startingEligibility : Option String :=
  match request.baseDecision with
  | some base => if !base.allowed then base.nextEligibleAtIso else none
  | none => none

def reasonRefused : Bool := request.dynamicReasonAllowed = some false

def missionRefused : Bool :=
  request.policyContext.userHasActiveMission || request.policyContext.userHasQueuedMission

/-- Evidence that is private, about relationships or identity, recalled from a source, or marked
as a risk. -/
def carriesGuardedEvidence : Bool :=
  request.evidence.containsPrivateMemoryEvidence ||
    request.evidence.containsRelationshipEvidence ||
    request.evidence.containsIdentityEvidence ||
    decide (request.evidence.sourceRecallRefs.length > 0) ||
    request.candidateRisk.any (·.privacyRisk = .privateOnly) ||
    request.candidateRisk.any (·.privacyRisk = .sensitive) ||
    request.candidateRisk.any (·.privacyRisk = .blocked)

def publicRouteRefused : Bool :=
  request.targetVisibility = .isPublic &&
    (!request.policyContext.routeIsPublicSafe ||
      !request.policyContext.sourceEvidencePublicSafe || request.carriesGuardedEvidence)

def sourceRecallRefused : Bool :=
  request.evidence.sourceRecallStatus = .blocked ||
    request.evidence.sourceRecallStatus = .unavailable ||
    (request.evidence.sourceRecallStatus = .disabled &&
      decide (request.evidence.sourceRecallRefs.length > 0)) ||
    (request.evidence.sourceRecallStatus = .available && !request.evidence.sourceRecallUsable)

def candidateMissionRefused : Bool :=
  request.candidateRisk.any (·.activeMissionSafe = false)

/-- The checks of `evaluatePulseAuthorityGateway` in their order. -/
def suppression : PulseSuppression :=
  request.startingSuppression
    |>.check request.reasonRefused .reasonNotAllowed "policy.dynamic_reason_not_allowed"
    |>.check request.missionRefused .activeMission "policy.user_active_or_queued_mission"
    |>.check request.publicRouteRefused .publicPrivacyBlocked
      "policy.public_route_private_evidence"
    |>.check request.sourceRecallRefused .sourceRecallBlocked "policy.source_recall_unusable"
    |>.check request.candidateMissionRefused .activeMission "candidate.active_mission_unsafe"

end PulseGatewayRequest

variable (sha : Sha256) (locale : Core.Locale)

def evaluatePulseAuthorityGateway (request : PulseGatewayRequest) : PulseGatewayDecision :=
  let state := request.suppression
  let allowed := state.suppressedBy.length = 0
  let stableDecision := Json.obj
    [("requestId", .str request.requestId), ("decisionCode", .str state.decisionCode.text),
      ("suppressedBy", .arr ((codeUnitOrder.sort state.suppressedBy).map .str)),
      ("nowIso", .str request.nowIso)]
  { decisionId := "pulse_gateway_decision_" ++
      sliceUnits 20 (sha.digest (canonicalJson locale stableDecision))
    requestId := request.requestId
    allowed := allowed
    decisionCode := if allowed then .allowed else state.decisionCode
    suppressedBy := state.suppressedBy
    nextEligibleAtIso := request.startingEligibility
    userVisibleDeliveryAllowed := allowed }

/-! ## One check at a time -/

section Check

variable (state : PulseSuppression) (refuses : Bool) (code : PulseDecisionCode) (reason : String)

@[simp] lemma check_suppressedBy_eq_nil :
    (state.check refuses code reason).suppressedBy = [] ↔
      state.suppressedBy = [] ∧ refuses = false := by
  cases refuses <;> simp [PulseSuppression.check]

/-- A state that refuses names a refusal. -/
def PulseSuppression.Named (state : PulseSuppression) : Prop :=
  state.suppressedBy ≠ [] → state.decisionCode ≠ .allowed

lemma PulseSuppression.Named.check {state : PulseSuppression} (h : state.Named)
    (refuses : Bool) (code : PulseDecisionCode) (reason : String) (hcode : code ≠ .allowed) :
    (state.check refuses code reason).Named := by
  intro _
  unfold PulseSuppression.check
  by_cases hrefuses : refuses = true
  · rw [if_pos hrefuses]
    by_cases hempty : state.suppressedBy = []
    · simp [hempty, hcode]
    · have hcurrent := h hempty
      simp [hempty, hcurrent]
  · rename_i hnonempty
    rw [if_neg hrefuses]
    refine h fun hempty => hnonempty ?_
    simp [hempty, hrefuses]

end Check

/-! ## The gates -/

inductive PulseGate where
  | baseDecision | dynamicReason | userMission | privacy | sourceRecall | candidateMission
deriving DecidableEq, Repr

/-- What each gate asks of a request. -/
def PulseGate.allows (request : PulseGatewayRequest) : PulseGate → Bool
  | .baseDecision => request.baseDecision.all (·.allowed)
  | .dynamicReason => !request.reasonRefused
  | .userMission => !request.missionRefused
  | .privacy =>
      request.targetVisibility = .isPrivate ||
        (!request.carriesGuardedEvidence &&
          (request.targetVisibility = .unknown ||
            (request.policyContext.routeIsPublicSafe &&
              request.policyContext.sourceEvidencePublicSafe)))
  | .sourceRecall => !request.sourceRecallRefused
  | .candidateMission => !request.candidateMissionRefused

section Verdict

variable {sha locale} {request : PulseGatewayRequest}

lemma evaluate_allowed : (evaluatePulseAuthorityGateway sha locale request).allowed =
    decide (request.suppression.suppressedBy.length = 0) :=
  rfl

lemma evaluate_decisionCode : (evaluatePulseAuthorityGateway sha locale request).decisionCode =
    if request.suppression.suppressedBy.length = 0 then .allowed
    else request.suppression.decisionCode :=
  rfl

/-- The list stays empty when no check refuses and the base decision brought no reason. -/
lemma allowed_iff : (evaluatePulseAuthorityGateway sha locale request).allowed = true ↔
    request.startingSuppression.suppressedBy = [] ∧ request.reasonRefused = false ∧
      request.missionRefused = false ∧ request.publicRouteRefused = false ∧
      request.sourceRecallRefused = false ∧ request.candidateMissionRefused = false := by
  rw [evaluate_allowed, decide_eq_true_eq, List.length_eq_zero_iff]
  simp only [PulseGatewayRequest.suppression, check_suppressedBy_eq_nil, and_assoc]

lemma starting_eq_nil_of_allows (h : PulseGate.allows request .baseDecision = true) :
    request.startingSuppression.suppressedBy = [] := by
  unfold PulseGatewayRequest.startingSuppression
  cases hbase : request.baseDecision with
  | none => rfl
  | some base =>
      have hallowed : base.allowed = true := by simpa [PulseGate.allows, hbase] using h
      simp [hallowed]

lemma allows_of_starting_eq_nil
    (hnamed : ∀ base ∈ request.baseDecision, base.allowed = false → base.suppressedBy ≠ [])
    (h : request.startingSuppression.suppressedBy = []) :
    PulseGate.allows request .baseDecision = true := by
  unfold PulseGatewayRequest.startingSuppression at h
  cases hbase : request.baseDecision with
  | none => simp [PulseGate.allows, hbase]
  | some base =>
      by_cases hallowed : base.allowed = true
      · simp [PulseGate.allows, hbase, hallowed]
      · have hrefused : base.allowed = false := by simpa using hallowed
        have hreasons := hnamed base (by simp [hbase]) hrefused
        exact absurd (by simpa [hbase, hrefused] using h) hreasons

lemma publicRouteRefused_of_allows (h : PulseGate.allows request .privacy = true) :
    request.publicRouteRefused = false := by
  unfold PulseGatewayRequest.publicRouteRefused
  unfold PulseGate.allows at h
  cases hvisibility : request.targetVisibility <;> simp_all

lemma allows_of_publicRouteRefused
    (hknown : request.targetVisibility = .unknown → request.carriesGuardedEvidence = false)
    (h : request.publicRouteRefused = false) : PulseGate.allows request .privacy = true := by
  unfold PulseGatewayRequest.publicRouteRefused at h
  unfold PulseGate.allows
  cases hvisibility : request.targetVisibility <;> simp_all

/-- Where every gate allows, the pulse is delivered. -/
lemma allowed_of_gates (h : ∀ gate, PulseGate.allows request gate = true) :
    (evaluatePulseAuthorityGateway sha locale request).allowed = true := by
  have hreason := h .dynamicReason
  have hmission := h .userMission
  have hrecall := h .sourceRecall
  have hcandidate := h .candidateMission
  simp only [PulseGate.allows, Bool.not_eq_true'] at hreason hmission hrecall hcandidate
  exact allowed_iff.mpr ⟨starting_eq_nil_of_allows (h .baseDecision), hreason, hmission,
    publicRouteRefused_of_allows (h .privacy), hrecall, hcandidate⟩

/-- A base decision that refuses says why, and a target of unknown visibility carries no guarded
evidence. -/
structure PulseGatewayRequest.Stated (request : PulseGatewayRequest) : Prop where
  refusal : ∀ base ∈ request.baseDecision, base.allowed = false → base.suppressedBy ≠ []
  visibility : request.targetVisibility = .unknown → request.carriesGuardedEvidence = false

lemma gates_of_allowed (hstated : request.Stated)
    (h : (evaluatePulseAuthorityGateway sha locale request).allowed = true) (gate : PulseGate) :
    PulseGate.allows request gate = true := by
  obtain ⟨hbase, hreason, hmission, hprivacy, hrecall, hcandidate⟩ := allowed_iff.mp h
  cases gate with
  | baseDecision => exact allows_of_starting_eq_nil hstated.refusal hbase
  | dynamicReason => simp [PulseGate.allows, hreason]
  | userMission => simp [PulseGate.allows, hmission]
  | privacy => exact allows_of_publicRouteRefused hstated.visibility hprivacy
  | sourceRecall => simp [PulseGate.allows, hrecall]
  | candidateMission => simp [PulseGate.allows, hcandidate]

/-- A refusal has a code of its own, unless a refusing base decision named ALLOWED. -/
lemma decisionCode_of_refused
    (hcode : ∀ base ∈ request.baseDecision,
      base.allowed = false → base.decisionCode ≠ .allowed)
    (h : (evaluatePulseAuthorityGateway sha locale request).allowed = false) :
    (evaluatePulseAuthorityGateway sha locale request).decisionCode ≠ .allowed := by
  have hstart : request.startingSuppression.Named := by
    unfold PulseGatewayRequest.startingSuppression PulseSuppression.Named
    cases hbase : request.baseDecision with
    | none => simp
    | some base =>
        by_cases hallowed : base.allowed = true
        · simp [hallowed]
        · have hrefused : base.allowed = false := by simpa using hallowed
          have hother := hcode base (by simp [hbase]) hrefused
          simp [hrefused, hother]
  have hnamed : request.suppression.Named := by
    have hreason := hstart.check request.reasonRefused .reasonNotAllowed
      "policy.dynamic_reason_not_allowed" (by simp)
    have hmission := hreason.check request.missionRefused .activeMission
      "policy.user_active_or_queued_mission" (by simp)
    have hprivacy := hmission.check request.publicRouteRefused .publicPrivacyBlocked
      "policy.public_route_private_evidence" (by simp)
    have hrecall := hprivacy.check request.sourceRecallRefused .sourceRecallBlocked
      "policy.source_recall_unusable" (by simp)
    exact hrecall.check request.candidateMissionRefused .activeMission
      "candidate.active_mission_unsafe" (by simp)
  rw [evaluate_allowed, decide_eq_false_iff_not] at h
  rw [evaluate_decisionCode, if_neg h]
  exact hnamed fun hempty => h (by simp [hempty])

/-- A pulse of a stated request is delivered exactly where every gate allows it, so a request that
is stricter at every gate is refused with it, and a refusal does not name ALLOWED. -/
theorem pulse_gateway_conjunctive (hstated : request.Stated) :
    ((evaluatePulseAuthorityGateway sha locale request).allowed = true ↔
      ∀ gate, PulseGate.allows request gate = true) ∧
    ((∀ base ∈ request.baseDecision, base.allowed = false → base.decisionCode ≠ .allowed) →
      (evaluatePulseAuthorityGateway sha locale request).allowed = false →
        (evaluatePulseAuthorityGateway sha locale request).decisionCode ≠ .allowed) ∧
    (∀ looser : PulseGatewayRequest,
      (∀ gate, PulseGate.allows request gate = true → PulseGate.allows looser gate = true) →
      (evaluatePulseAuthorityGateway sha locale looser).allowed = false →
        (evaluatePulseAuthorityGateway sha locale request).allowed = false) := by
  refine ⟨⟨gates_of_allowed hstated, allowed_of_gates⟩, decisionCode_of_refused, ?_⟩
  intro looser hlooser hrefused
  by_contra hallowed
  have hgates := gates_of_allowed hstated (by simpa using hallowed)
  have hdelivered := @allowed_of_gates sha locale looser fun gate => hlooser gate (hgates gate)
  rw [hdelivered] at hrefused
  exact Bool.noConfusion hrefused

end Verdict

/-- A pulse to a private chat that every gate allows. -/
def privatePulseRequest : PulseGatewayRequest where
  requestId := "pulse_gateway_request_1"
  targetVisibility := .isPrivate
  nowIso := "2026-03-01T10:00:00.000Z"
  baseDecision := some ⟨true, .allowed, [], none⟩
  dynamicReasonAllowed := some true
  candidateRisk := some ⟨.privateOnly, true⟩
  policyContext := ⟨false, false, true, true⟩
  evidence := ⟨["recall_1"], .available, true, true, false, false⟩

/-- The same pulse to a public chat. -/
def publicPulseRequest : PulseGatewayRequest :=
  { privatePulseRequest with targetVisibility := .isPublic }

theorem pulse_gateway_conjunctive_publicTarget :
    privatePulseRequest.Stated ∧
    ((evaluatePulseAuthorityGateway (Sha256.ofTable [] (by decide)) codeUnitOrder
      publicPulseRequest).allowed = true ↔
        ∀ gate, PulseGate.allows publicPulseRequest gate = true) ∧
    PulseGate.allows publicPulseRequest .privacy = false := by
  have hprivate : privatePulseRequest.Stated := ⟨by decide, by decide⟩
  have hpublic : publicPulseRequest.Stated := ⟨by decide, by decide⟩
  exact ⟨hprivate, (pulse_gateway_conjunctive hpublic).1, by decide⟩

/-- The private pulse with a candidate that is not safe beside a mission. -/
def unsafeCandidateRequest : PulseGatewayRequest :=
  { privatePulseRequest with candidateRisk := some ⟨.none, false⟩ }

/-- The private pulse after a base decision that refuses and gives no reason. -/
def silentRefusalRequest : PulseGatewayRequest :=
  { privatePulseRequest with baseDecision := some ⟨false, .quietHours, [], none⟩ }

/-- The candidate's own mission gate refuses where the base decision, the reason, the user's
missions, the privacy and the source recall allow; and a silent refusal is not heard. -/
theorem candidate_gate_and_silent_refusal :
    ((∀ gate ∈ [PulseGate.baseDecision, .dynamicReason, .userMission, .privacy, .sourceRecall],
        PulseGate.allows unsafeCandidateRequest gate = true) ∧
      (evaluatePulseAuthorityGateway (Sha256.ofTable [] (by decide)) codeUnitOrder
        unsafeCandidateRequest).allowed = false) ∧
    PulseGate.allows silentRefusalRequest .baseDecision = false ∧
      (evaluatePulseAuthorityGateway (Sha256.ofTable [] (by decide)) codeUnitOrder
        silentRefusalRequest).allowed = true := by
  decide

end AgentBigBrain.Interfaces
